/-
  SchemaTables.Storage.Draft
  ──────────────────────────
  **TABLES WHILE THEY ARE BEING BUILT.**

  A draft is what a storage model is built in: the tables so far, and which
  of them stores which entity.  Tables are added whole, columns one by one.

  Both sides of an association ask for the same foreign key.  Adding a column
  that refers to what a column of the same name already refers to therefore
  keeps one column, which allows null only if both do; any other clash of
  column names is an error (`Table.addColumn`).
-/
import SchemaTables.Storage.Error
import SchemaTables.Storage.Model

namespace SchemaTables.Storage

/-! ## §1. Columns of one table. -/

/-- Do the two columns stand for the same foreign key? -/
def Column.sameReference (old new : Column) : Bool :=
  old.references.isSome && old.references = new.references

/-- Add a column to a list of columns: `none` where its name is taken by a
column that is not the same foreign key. -/
def addTo (new : Column) : List Column → Option (List Column)
  | [] => some [new]
  | old :: rest =>
      if old.name = new.name then
        if old.sameReference new then
          some ({ old with isNullable := old.isNullable && new.isNullable }
            :: rest)
        else none
      else (addTo new rest).map (old :: ·)

/-- Add a column to a table. -/
def Table.addColumn (t : Table) (new : Column) : Except StorageError Table :=
  match addTo new t.columns with
  | some columns => .ok { t with columns := columns }
  | none => .error (.columnConflict t.name new.name)

/-! ## §2. The draft. -/

/-- The tables so far, and the name of each entity's table. -/
structure Draft where
  tables : OrderedMap Table
  entityTables : OrderedMap String

namespace Draft

/-- No tables yet. -/
def empty : Draft := ⟨.empty, .empty⟩

/-- Add the table of an entity, which must have a name of its own. -/
def addEntityTable (d : Draft) (entity : String) (t : Table) :
    Except StorageError Draft :=
  if d.tables.contains t.name then .error (.duplicateTable t.name)
  else
    .ok {
      tables := d.tables.insert t.name t
      entityTables := d.entityTables.insert entity t.name }

/-- The table that stores an entity. -/
def entityTable? (d : Draft) (entity : String) : Option Table :=
  (d.entityTables.get? entity).bind d.tables.get?

/-- The primary key of an entity, with the type of its column. -/
def primaryKey? (d : Draft) (entity : String) :
    Option (ColumnRef × ColumnType) := do
  let t ← d.entityTable? entity
  let c ← t.primaryKey.head?
  return (t.ref c.name, c.type)

/-- Put a table in the place of the one that has its name. -/
def replace (d : Draft) (t : Table) : Draft :=
  { d with tables := d.tables.insert t.name t }

end Draft

end SchemaTables.Storage
