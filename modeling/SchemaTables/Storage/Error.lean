/-
  SchemaTables.Storage.Error
  ──────────────────────────
  **WHY A SCHEMA CANNOT BE STORED.**
-/

namespace SchemaTables.Storage

/-- A reason for which a schema has no storage model. -/
inductive StorageError where
  /-- An association leads to an entity without a table. -/
  | unknownEntity (entity field target : String)
  /-- The type of a field without an association is no primitive. -/
  | unknownColumnType (entity field type : String)
  /-- Several associations could be the other side of this one. -/
  | ambiguous (entity field target : String)
  /-- The field that is the primary key holds a list. -/
  | listKey (entity field : String)
  /-- Two columns of a table have one name. -/
  | columnConflict (table column : String)
  /-- Two tables have one name. -/
  | duplicateTable (table : String)
  deriving DecidableEq, Repr

/-- The text of an error. -/
def StorageError.message : StorageError → String
  | .unknownEntity e f t =>
      e ++ "." ++ f ++ ": refers to unknown entity '" ++ t ++ "'"
  | .unknownColumnType e f t =>
      e ++ "." ++ f ++ ": type '" ++ t ++ "' cannot be stored in a column"
  | .ambiguous e f t =>
      e ++ "." ++ f ++ ": cannot tell which association of '" ++ t
        ++ "' is the other side of this one"
  | .listKey e f => e ++ "." ++ f ++ ": a primary key cannot be a list"
  | .columnConflict t c =>
      "Column '" ++ c ++ "' of table '" ++ t ++ "' is defined more than once"
  | .duplicateTable t =>
      "Table '" ++ t ++ "' is used for more than one purpose"

end SchemaTables.Storage
