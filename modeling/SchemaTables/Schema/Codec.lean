/-
  SchemaTables.Schema.Codec
  ─────────────────────────
  **THE JSON FORM OF A SCHEMA.**

  A schema is written as an object of its entities, an entity as a record of
  its name, its plural and the object of its fields, in the order of the maps.
  Reading takes the same form; a missing association is none, any other
  missing member or one of the wrong type is refused.
-/
import SchemaTables.Json
import SchemaTables.Schema

namespace SchemaTables

/-! ## §1. Associations. -/

namespace Association

/-- A kind is written as its keyword. -/
def toJson (kind : Association) : Json := .string kind.keyword

/-- The kind that a keyword names. -/
def ofJson? (j : Json) : Option Association := j.tag?.bind ofKeyword?

/-- A kind, or `null` for none. -/
def optionToJson : Option Association → Json
  | some kind => kind.toJson
  | none => .null

end Association

/-! ## §2. Fields. -/

namespace Field

/-- A field as a record. -/
def toJson (f : Field) : Json :=
  .object
    [ ("name", .string f.name), ("type", .string f.baseType),
      ("nullable", .bool f.nullable), ("list", .bool f.isList),
      ("association", Association.optionToJson f.association) ]

/-- Read a field. -/
def ofJson? (j : Json) : Option Field := do
  match ← j.record? ["name", "type", "nullable", "list", "association"] with
  | [some name, some type, some nullable, some list, association] =>
      return {
        name := ← name.string?
        baseType := ← type.string?
        nullable := ← nullable.bool?
        isList := ← list.bool?
        association :=
          ← (association.getD .null).optional? Association.ofJson? }
  | _ => none

end Field

/-! ## §3. Entities and schemas. -/

namespace Entity

/-- An entity as a record. -/
def toJson (e : Entity) : Json :=
  .object
    [ ("name", .string e.name), ("pluralName", .string e.pluralName),
      ("fields", .ofMap Field.toJson e.fields) ]

/-- Read an entity. -/
def ofJson? (j : Json) : Option Entity := do
  match ← j.record? ["name", "pluralName", "fields"] with
  | [some name, some pluralName, some fields] =>
      return {
        name := ← name.string?
        pluralName := ← pluralName.string?
        fields := ← fields.map? Field.ofJson? }
  | _ => none

end Entity

namespace Schema

/-- A schema as the object of its entities. -/
def toJson (s : Schema) : Json := .ofMap Entity.toJson s.entities

/-- Read a schema. -/
def ofJson? (j : Json) : Option Schema :=
  (j.map? Entity.ofJson?).map Schema.mk

end Schema

end SchemaTables
