/-
  SchemaTables.Storage.Layout
  ───────────────────────────
  **THE TABLE OF AN ENTITY.**

  Every field without an association is a column.  The field `id` is the
  primary key; an entity without one gets a numbered key of that name, in
  front of its other columns.  All tables are laid out before any association
  is looked at, so that every primary key is known by then.
-/
import SchemaTables.Schema
import SchemaTables.Storage.Draft
import SchemaTables.Storage.Naming

namespace SchemaTables.Storage

/-! ## §1. Columns. -/

/-- The name of the field that is the primary key. -/
def keyField : String := "id"

/-- The primary key of an entity that declares none. -/
def numberedKey : Column where
  name := keyField
  type := .int
  isPrimaryKey := true
  isAutoIncrement := true
  isNullable := false
  references := none

/-- The column of a field of primitive type `p`. -/
def columnOf (f : Field) (p : Primitive) : Column :=
  let type := if f.isList then .json else ColumnType.ofPrimitive p
  let isKey := f.name = keyField
  { name := columnName f.name
    type := type
    isPrimaryKey := isKey
    isAutoIncrement := isKey && type = .int
    isNullable := !isKey && f.nullable
    references := none }

/-- The column of a field without an association. -/
def fieldColumn (e : Entity) (f : Field) : Except StorageError Column :=
  match f.primitive? with
  | none => .error (.unknownColumnType e.name f.name f.baseType)
  | some p =>
      if f.name = keyField && f.isList then .error (.listKey e.name f.name)
      else .ok (columnOf f p)

/-! ## §2. Tables. -/

/-- Add the column of a field to the table of its entity. -/
def addField (e : Entity) (t : Table) (f : Field) :
    Except StorageError Table := do
  t.addColumn (← fieldColumn e f)

/-- Make sure that a table has a primary key. -/
def withKey (t : Table) : Except StorageError Table :=
  if t.primaryKey.isEmpty then
    if (t.column? keyField).isSome then
      .error (.columnConflict t.name keyField)
    else .ok { t with columns := numberedKey :: t.columns }
  else .ok t

/-- The table of an entity. -/
def entityTable (e : Entity) : Except StorageError Table := do
  let t ← e.primitiveFields.foldlM (addField e)
    { name := tableName e, entity := some e.name, columns := [] }
  withKey t

/-- Add the table of an entity to a draft. -/
def layEntity (d : Draft) (e : Entity) : Except StorageError Draft := do
  d.addEntityTable e.name (← entityTable e)

/-- The draft with the tables of all entities. -/
def layOut (s : Schema) : Except StorageError Draft :=
  s.toList.foldlM layEntity Draft.empty

end SchemaTables.Storage
