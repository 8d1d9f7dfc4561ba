import ApiStubs.Main
import ApiStubs.Stub.Record
import ApiStubs.Proofs.RouteList
import ApiStubs.Proofs.ReadDocuments
import ApiStubs.Proofs.Blocks
import ApiStubs.Proofs.FileNames
import ApiStubs.Proofs.FileRuns
import ApiStubs.Proofs.KeptFiles
import ApiStubs.Proofs.NewFiles
import ApiStubs.Proofs.Overwriting
import ApiStubs.Proofs.Rivals
import ApiStubs.Proofs.Regeneration
import ApiStubs.Proofs.Payloads
import ApiStubs.Proofs.ModelNames
import ApiStubs.Proofs.Confinement
import ApiStubs.Proofs.FailingWriter
import ApiStubs.Proofs.HiddenParts
import ApiStubs.Proofs.Shapes
import ApiStubs.Proofs.BuiltinTemplates
import ApiStubs.Proofs.TableText
import ApiStubs.Proofs.ReadableTables
import ApiStubs.Proofs.DeclaredProperties
import ApiStubs.Proofs.ComposedSchemas
import ApiStubs.Proofs.MovedPaths
import ApiStubs.Proofs.Relocation
import ApiStubs.Proofs.Placeholders
import ApiStubs.Proofs.HandlerNames
import ApiStubs.Proofs.RouteFaults
import ApiStubs.Proofs.PatternExpressions
import ApiStubs.Proofs.CanonicalNames
import ApiStubs.Proofs.CurrentTable
import ApiStubs.Proofs.DottedOutput
import ApiStubs.Proofs.IgnoreFiles
import ApiStubs.Proofs.TemplateLocations
import ApiStubs.Proofs.SavedConfigurations
