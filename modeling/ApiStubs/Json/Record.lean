import ApiStubs.Json.Raw

/-!
# Records in JSON

A record is read from an object or from a list with its fields in order. An object may hold
other fields, which are skipped, but none of the record's fields twice; a list may leave off
fields at its end that have a default.
-/

namespace ApiStubs.Json

/-- The fields of a record that are there. -/
abbrev RecordFields := List (String × Raw)

namespace Raw

/-- The fields of a record with the given names, of which a list has to hold the first
`needed`. -/
def record? (names : List String) (needed : Nat) : Raw → Option RecordFields
  | .obj fields => do
    let fields ← fields.mapM fun ((key, x) : Option String × Raw) => key.map (·, x)
    let known := fields.filter fun f => names.contains f.1
    if names.all fun name => (known.filter fun f => f.1 == name).length ≤ 1 then some known else none
  | .arr items =>
    if needed ≤ items.length && items.length ≤ names.length then some (names.zip items) else none
  | _ => none

/-- A text. -/
def text? : Raw → Option String
  | .str s => s
  | _ => none

end Raw

namespace RecordFields

/-- A text that has to be there. -/
def text? (r : RecordFields) (name : String) : Option String := do
  (← r.lookup name).text?

/-- A text, with a default. -/
def textD? (r : RecordFields) (name d : String) : Option String :=
  match r.lookup name with
  | none => some d
  | some x => x.text?

/-- A text that may be missing or null. -/
def optionalText? (r : RecordFields) (name : String) : Option (Option String) :=
  match r.lookup name with
  | none => some none
  | some .null => some none
  | some x => x.text?.map some

/-- A truth value that has to be there. -/
def flag? (r : RecordFields) (name : String) : Option Bool :=
  match r.lookup name with
  | some (.bool b) => some b
  | _ => none

/-- A truth value, with a default. -/
def flagD? (r : RecordFields) (name : String) (d : Bool) : Option Bool :=
  match r.lookup name with
  | none => some d
  | some (.bool b) => some b
  | some _ => none

end RecordFields

/-- The fields of a record in a text. -/
def recordOfText? (names : List String) (needed : Nat) (text : String) : Option RecordFields :=
  (Raw.ofText? text).bind (Raw.record? names needed)

end ApiStubs.Json
