/-
  SchemaTables.Storage.Model
  ──────────────────────────
  **TABLES, COLUMNS AND RELATIONS.**

  The storage model of a schema has a table per entity, a join table per pair
  of entities that relate many to many, and one relation per association
  field, which says by which columns the association is stored.
-/
import SchemaTables.Association
import SchemaTables.OrderedMap
import SchemaTables.Primitive

namespace SchemaTables.Storage

/-! ## §1. Columns. -/

/-- What a column holds. -/
inductive ColumnType where
  | string
  | int
  | float
  | boolean
  | uuid
  /-- A list of primitive values as one value. -/
  | json
  deriving DecidableEq, Repr

namespace ColumnType

/-- The name of the type. -/
def name : ColumnType → String
  | .string => "String"
  | .int => "Int"
  | .float => "Float"
  | .boolean => "Boolean"
  | .uuid => "Uuid"
  | .json => "Json"

/-- All column types. -/
def all : List ColumnType := [.string, .int, .float, .boolean, .uuid, .json]

/-- The column type of this name. -/
def ofName? (name : String) : Option ColumnType :=
  all.find? fun t => t.name = name

theorem ofName?_name (t : ColumnType) : ofName? t.name = some t := by
  cases t <;> decide

/-- The type of a column that holds one primitive value. -/
def ofPrimitive : Primitive → ColumnType
  | .string => .string
  | .int => .int
  | .float => .float
  | .boolean => .boolean
  | .id => .uuid

end ColumnType

/-- A column of a table, by name. -/
structure ColumnRef where
  table : String
  column : String
  deriving DecidableEq, Repr

/-- A column.  A foreign key names the column that it refers to. -/
structure Column where
  name : String
  type : ColumnType
  isPrimaryKey : Bool
  isAutoIncrement : Bool
  isNullable : Bool
  references : Option ColumnRef
  deriving DecidableEq, Repr

/-! ## §2. Tables. -/

/-- A table; a join table stores no entity. -/
structure Table where
  name : String
  entity : Option String
  columns : List Column
  deriving DecidableEq, Repr

namespace Table

/-- The first column of this name. -/
def column? (t : Table) (name : String) : Option Column :=
  t.columns.find? fun c => c.name = name

/-- The columns of the primary key. -/
def primaryKey (t : Table) : List Column :=
  t.columns.filter fun c => c.isPrimaryKey

/-- Is this a join table? -/
def isJoinTable (t : Table) : Bool := t.entity.isNone

/-- The reference to a column of this table. -/
def ref (t : Table) (column : String) : ColumnRef := ⟨t.name, column⟩

end Table

/-! ## §3. Relations. -/

/-- The columns by which an association is stored. -/
inductive Link where
  /-- A column of the entity refers to the primary key of the target. -/
  | manyToOne (selfColumn foreignKey : ColumnRef)
  /-- A column of the target refers to the primary key of the entity. -/
  | oneToMany (selfKey foreignColumn : ColumnRef)
  /-- Two columns of a join table refer to the two primary keys. -/
  | manyToMany (joinTable : String) (selfColumn foreignColumn : ColumnRef)
  deriving DecidableEq, Repr

/-- How one association field is stored. -/
structure Relation where
  entity : String
  field : String
  kind : Association
  target : String
  link : Link
  deriving DecidableEq, Repr

/-! ## §4. Models. -/

/-- A storage model. -/
structure Model where
  tables : OrderedMap Table
  relations : List Relation
  deriving DecidableEq

namespace Model

/-- The table under a key. -/
def table? (m : Model) (key : String) : Option Table := m.tables.get? key

/-- The first table that stores an entity. -/
def entityTable? (m : Model) (entity : String) : Option Table :=
  m.tables.values.find? fun t => t.entity = some entity

/-- The first relation of a field. -/
def relation? (m : Model) (entity field : String) : Option Relation :=
  m.relations.find? fun r => r.entity = entity && r.field = field

end Model

end SchemaTables.Storage
