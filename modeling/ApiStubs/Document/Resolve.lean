import ApiStubs.Document.Basic
import ApiStubs.Reference

/-!
# Resolving parameters

A parameter is written out where it is used, or kept in the table of shared parameters. A
pointer leads to one entry of that table, and only to one that is written out.
-/

namespace ApiStubs.Document

/-- The shared parameter of a name, if it is written out. -/
def sharedParameter? (d : Document) (name : String) : Option Parameter := do
  let c ← d.components
  let p ← c.parameters.lookup name
  p.item?

/-- The parameter that is meant. -/
def resolveParameter (d : Document) : RefOr Parameter → Except Error Parameter
  | .item p => .ok p
  | .reference pointer =>
    match parameterName pointer with
    | .error e => .error e
    | .ok name =>
      match d.sharedParameter? name with
      | some p => .ok p
      | none => .error (.document (missingParameterMessage name))

end ApiStubs.Document
