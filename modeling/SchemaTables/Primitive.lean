/-
  SchemaTables.Primitive
  ──────────────────────
  **THE PRIMITIVE TYPES.**

  The five types of a schema language whose values are stored in a column of
  their own.  Names are compared exactly.
-/

namespace SchemaTables

/-- A type that is not an entity. -/
inductive Primitive where
  | string
  | int
  | float
  | boolean
  | id
  deriving DecidableEq, Repr

namespace Primitive

/-- The name of the type in a schema. -/
def name : Primitive → String
  | .string => "String"
  | .int => "Int"
  | .float => "Float"
  | .boolean => "Boolean"
  | .id => "ID"

/-- All primitive types. -/
def all : List Primitive := [.string, .int, .float, .boolean, .id]

/-- The primitive type of this name. -/
def ofName? (name : String) : Option Primitive :=
  all.find? fun p => p.name = name

/-- Does this name a primitive type? -/
def isName (name : String) : Bool := (ofName? name).isSome

theorem ofName?_name (p : Primitive) : ofName? p.name = some p := by
  cases p <;> decide

end Primitive

end SchemaTables
