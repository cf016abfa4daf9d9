import SchemaTrail.Json.Value

/-!
# Records in JSON

A record is written as an object with one field for each of its components, or as an array of the
components in their order.  `Json.record?` finds the components that are present; the functions
after it read one of them each.
-/

namespace SchemaTrail

/-- The components of a record that are present, by name. -/
abbrev Record := List (String × Json)

namespace Json

/-- The components of a record with the given names.  In an object, fields of other names are passed
over and no component occurs twice; an array has no more items than there are components. -/
def record? (names : List String) : Json → Option Record
  | .object fields =>
    let known := fields.filter fun f => names.contains f.1
    if (known.map Prod.fst).Nodup then some known else none
  | .array items => if items.length ≤ names.length then some (names.zip items) else none
  | _ => none

end Json

namespace Record

variable {α : Type}

/-- A component that has to be present. -/
def required? (r : Record) (name : String) (read : Json → Option α) : Option α :=
  (r.lookup name).bind read

/-- A component that has a value of its own if it is missing. -/
def orElse? (r : Record) (name : String) (missing : α) (read : Json → Option α) : Option α :=
  match r.lookup name with
  | none => some missing
  | some j => read j

/-- A component that may be missing or `null`. -/
def optional? (r : Record) (name : String) (read : Json → Option α) : Option (Option α) :=
  match r.lookup name with
  | none => some none
  | some j => j.optional? read

end Record

/-- A field that is written only if it is present. -/
def Json.fieldIfSome {α : Type} (name : String) (write : α → Json) : Option α → Record
  | none => []
  | some a => [(name, write a)]

end SchemaTrail
