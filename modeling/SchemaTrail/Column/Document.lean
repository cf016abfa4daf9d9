import SchemaTrail.Column.Basic
import SchemaTrail.Json.Record

/-!
# Columns in JSON

A column is written with its type, its name and the attributes of its kind.  It is read like a
declaration, so that the type may be an alias, and is put at position zero.
-/

namespace SchemaTrail.Column

/-- The column in JSON. -/
def toJson (c : Column) : Json :=
  .object <|
    [("type", .string c.typeName), ("name", .string c.name)] ++
      Json.fieldIfSome "charset" .string c.kind.charset? ++
      Json.fieldIfSome "signed" .bool c.kind.signed? ++
      Json.fieldIfSome "enum-values" Json.ofStrings c.kind.values? ++
      Json.fieldIfSome "column-length" (Json.ofNat ·.val) c.kind.precision?

/-- Reads a column. -/
def ofJson? (j : Json) : Option Column := do
  let r ← j.record? ["type", "name", "charset", "signed", "enum-values", "column-length"]
  let declared ← r.required? "type" Json.string?
  let name ← r.required? "name" Json.string?
  let charset ← r.optional? "charset" Json.string?
  let signed ← r.optional? "signed" Json.bool?
  let values ← r.optional? "enum-values" (Json.list? Json.string?)
  let length ← r.optional? "column-length" (Json.word? 64)
  let attributes := ⟨signed.getD true, charset, length, values.getD [], false⟩
  (declare name declared 0 attributes).toOption

end SchemaTrail.Column
