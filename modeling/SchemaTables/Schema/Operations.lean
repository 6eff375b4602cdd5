/-
  SchemaTables.Schema.Operations
  ──────────────────────────────
  **THE NAMES OF QUERIES AND MUTATIONS.**

  Each entity is read by two queries, one for a single value and one for a
  list, and written by three mutations.  Their names come from the name and
  the plural of the entity.
-/
import SchemaTables.Json
import SchemaTables.Schema
import SchemaTables.Text.Plural
import SchemaTables.Text.Words

namespace SchemaTables

open Text

/-- The names of the operations on one entity. -/
structure OperationNames where
  get : String
  list : String
  create : String
  update : String
  delete : String
  deriving DecidableEq, Repr

namespace OperationNames

/-- The operations for a name with the given plural. -/
def of (name plural : String) : OperationNames where
  get := lowerCamelCase name
  list := lowerCamelCase plural
  create := "create" ++ name
  update := "update" ++ name
  delete := "delete" ++ name

/-- The operations of an entity. -/
def ofEntity (e : Entity) : OperationNames := of e.name e.pluralName

/-- The operations for a name with its English plural. -/
def ofName (name : String) : OperationNames := of name (pluralOf name)

/-- The names as a JSON object. -/
def toJson (o : OperationNames) : Json :=
  .object
    [ ("get", .string o.get), ("list", .string o.list),
      ("create", .string o.create), ("update", .string o.update),
      ("delete", .string o.delete) ]

end OperationNames

/-- The operations of all entities, by the name of the entity. -/
def Schema.operations (s : Schema) : OrderedMap OperationNames :=
  .ofList (s.toList.map fun e => (e.name, .ofEntity e))

end SchemaTables
