import ApiStubs.Text.Alphanumeric
import ApiStubs.Text.UpperCase
import ApiStubs.Text.Lines

/-!
# Names

Handlers, hydrators and models are named after paths and schemas. A name keeps the
alphanumeric segments of its source, each with a capital in front, and forgets everything
between them; so two sources with the same segments get the same name.
-/

namespace ApiStubs

/-- The maximal runs of alphanumeric characters, in order. -/
def segments (raw : List Char) : List (List Char) :=
  (Text.splitWhere (fun c => !Text.isAlphanumeric c) raw).filter (fun s => !s.isEmpty)

/-- The type name made from a path or a schema name. -/
def modelName (raw : String) : String :=
  String.ofList ((segments raw.toList).flatMap Text.capitalize)

/-- The last segment of a namespace of handlers, and the ending of their names. -/
def handlerSuffix : String := "Handler"

/-- The last segment of a namespace of hydrators, and the ending of their names. -/
def hydratorSuffix : String := "Hydrator"

/-- The last segment of a namespace of models. -/
def modelSuffix : String := "Model"

/-- The name of the handler of a path. -/
def handlerName (path : String) : String :=
  modelName path ++ handlerSuffix

/-- The name of the hydrator of a schema. -/
def hydratorName (schema : String) : String :=
  modelName schema ++ hydratorSuffix

/-- How the segments of a namespace are joined. -/
structure Namespacing where
  /-- The text between two segments. -/
  separator : String := "::"
  deriving Repr, DecidableEq

namespace Namespacing

/-- A namespace below `base`, or on its own when there is no base. -/
def child (n : Namespacing) (base suffix : String) : String :=
  if base.isEmpty then suffix else base ++ n.separator ++ suffix

/-- The name of something inside a namespace. -/
def qualify (n : Namespacing) (space name : String) : String :=
  space ++ n.separator ++ name

end Namespacing

end ApiStubs
