/-
  SchemaTables.Storage.Codec
  ──────────────────────────
  **THE JSON FORM OF A STORAGE MODEL.**

  A model is written as a record of the object of its tables and the array of
  its relations.  A link is an object with one member, named after the kind
  of link, which holds its columns.  Reading takes the same form; the entity
  of a table and the reference of a column may be missing.
-/
import SchemaTables.Schema.Codec
import SchemaTables.Storage.Model

namespace SchemaTables.Storage

/-! ## §1. Columns. -/

namespace ColumnRef

/-- A reference as a record. -/
def toJson (r : ColumnRef) : Json :=
  .object [("table", .string r.table), ("column", .string r.column)]

/-- Read a reference. -/
def ofJson? (j : Json) : Option ColumnRef := do
  match ← j.record? ["table", "column"] with
  | [some table, some column] =>
      return { table := ← table.string?, column := ← column.string? }
  | _ => none

/-- A reference, or `null` for none. -/
def optionToJson : Option ColumnRef → Json
  | some r => r.toJson
  | none => .null

end ColumnRef

namespace Column

/-- A column as a record. -/
def toJson (c : Column) : Json :=
  .object
    [ ("name", .string c.name), ("typ", .string c.type.name),
      ("is_pk", .bool c.isPrimaryKey),
      ("is_auto_increment", .bool c.isAutoIncrement),
      ("is_nullable", .bool c.isNullable),
      ("references", ColumnRef.optionToJson c.references) ]

/-- Read a column. -/
def ofJson? (j : Json) : Option Column := do
  match ← j.record? ["name", "typ", "is_pk", "is_auto_increment",
      "is_nullable", "references"] with
  | [some name, some type, some key, some increment, some nullable,
      references] =>
      return {
        name := ← name.string?
        type := ← type.tag?.bind ColumnType.ofName?
        isPrimaryKey := ← key.bool?
        isAutoIncrement := ← increment.bool?
        isNullable := ← nullable.bool?
        references :=
          ← (references.getD .null).optional? ColumnRef.ofJson? }
  | _ => none

end Column

/-! ## §2. Tables. -/

namespace Table

/-- A table as a record. -/
def toJson (t : Table) : Json :=
  .object
    [ ("name", .string t.name), ("entity", .ofString? t.entity),
      ("columns", .array (t.columns.map Column.toJson)) ]

/-- Read a table. -/
def ofJson? (j : Json) : Option Table := do
  match ← j.record? ["name", "entity", "columns"] with
  | [some name, entity, some columns] =>
      return {
        name := ← name.string?
        entity := ← (entity.getD .null).optional? Json.string?
        columns := ← (← columns.array?).mapM Column.ofJson? }
  | _ => none

end Table

/-! ## §3. Relations. -/

namespace Link

/-- A link as an object with one member. -/
def toJson : Link → Json
  | .manyToOne column key =>
      .object [("ManyToOne", .object
        [("self_column", column.toJson), ("foreign_pk_column", key.toJson)])]
  | .oneToMany key column =>
      .object [("OneToMany", .object
        [("self_pk_column", key.toJson), ("foreign_column", column.toJson)])]
  | .manyToMany table one other =>
      .object [("ManyToMany", .object
        [ ("join_table", .string table), ("self_column", one.toJson),
          ("foreign_column", other.toJson) ])]

/-- Read a link. -/
def ofJson? : Json → Option Link
  | .object [("ManyToOne", j)] => do
      match ← j.record? ["self_column", "foreign_pk_column"] with
      | [some column, some key] =>
          return .manyToOne (← ColumnRef.ofJson? column)
            (← ColumnRef.ofJson? key)
      | _ => none
  | .object [("OneToMany", j)] => do
      match ← j.record? ["self_pk_column", "foreign_column"] with
      | [some key, some column] =>
          return .oneToMany (← ColumnRef.ofJson? key)
            (← ColumnRef.ofJson? column)
      | _ => none
  | .object [("ManyToMany", j)] => do
      match ← j.record? ["join_table", "self_column", "foreign_column"] with
      | [some table, some one, some other] =>
          return .manyToMany (← table.string?) (← ColumnRef.ofJson? one)
            (← ColumnRef.ofJson? other)
      | _ => none
  | _ => none

end Link

namespace Relation

/-- A relation as a record. -/
def toJson (r : Relation) : Json :=
  .object
    [ ("entity", .string r.entity), ("field", .string r.field),
      ("kind", r.kind.toJson), ("target", .string r.target),
      ("link", r.link.toJson) ]

/-- Read a relation. -/
def ofJson? (j : Json) : Option Relation := do
  match ← j.record? ["entity", "field", "kind", "target", "link"] with
  | [some entity, some field, some kind, some target, some link] =>
      return {
        entity := ← entity.string?
        field := ← field.string?
        kind := ← Association.ofJson? kind
        target := ← target.string?
        link := ← Link.ofJson? link }
  | _ => none

end Relation

/-! ## §4. Models. -/

namespace Model

/-- A model as a record. -/
def toJson (m : Model) : Json :=
  .object
    [ ("tables", .ofMap Table.toJson m.tables),
      ("relations", .array (m.relations.map Relation.toJson)) ]

/-- Read a model. -/
def ofJson? (j : Json) : Option Model := do
  match ← j.record? ["tables", "relations"] with
  | [some tables, some relations] =>
      return {
        tables := ← tables.map? Table.ofJson?
        relations := ← (← relations.array?).mapM Relation.ofJson? }
  | _ => none

end Model

end SchemaTables.Storage
