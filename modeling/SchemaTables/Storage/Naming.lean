/-
  SchemaTables.Storage.Naming
  ───────────────────────────
  **THE NAMES OF TABLES AND COLUMNS.**

  Tables are named after the plural of what they store, columns after their
  field, both in lower case words joined by underscores.  A join table joins
  the names of its two tables, the smaller first, so that both sides of an
  association arrive at one name.
-/
import SchemaTables.Schema
import SchemaTables.Text.Plural
import SchemaTables.Text.Words

namespace SchemaTables.Storage

open Text

/-- The table of an entity. -/
def tableName (e : Entity) : String := snakeCase e.pluralName

/-- The table for a name with its English plural. -/
def tableNameOf (name : String) : String := snakeCase (pluralOf name)

/-- The column of a field. -/
def columnName (field : String) : String := snakeCase field

/-- The foreign key for a name. -/
def foreignKeyName (name : String) : String := snakeCase name ++ "_id"

/-- The table that joins two tables. -/
def joinTableName (a b : String) : String :=
  if b < a then b ++ "_" ++ a else a ++ "_" ++ b

/-- The name does not depend on the order of the two tables. -/
theorem joinTableName_comm (a b : String) :
    joinTableName a b = joinTableName b a := by
  unfold joinTableName
  by_cases h : b < a
  · have : ¬ a < b := fun h' => String.lt_irrefl a (String.lt_trans h' h)
    simp [h, this]
  · by_cases h' : a < b
    · simp [h, h']
    · have : a = b := String.le_antisymm h h'
      simp [this]

end SchemaTables.Storage
