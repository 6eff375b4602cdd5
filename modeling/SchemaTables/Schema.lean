/-
  SchemaTables.Schema
  ───────────────────
  **ENTITIES AND THEIR FIELDS.**

  A schema is the list of its entities, each with its fields, as far as the
  storage of their values depends on it.  Entities and fields are looked up by
  the key under which they stand; a schema that comes from documents has each
  under its own name.

  A field without an association is stored in a column, a field with one
  relates its entity to the one named by its type.
-/
import SchemaTables.Association
import SchemaTables.OrderedMap
import SchemaTables.Primitive

namespace SchemaTables

/-! ## §1. Fields. -/

/-- A field, with its type reduced to a name and two flags. -/
structure Field where
  name : String
  baseType : String
  nullable : Bool
  isList : Bool
  association : Option Association
  deriving DecidableEq, Repr

namespace Field

/-- The primitive type of a field whose type is none of the entities. -/
def primitive? (f : Field) : Option Primitive := Primitive.ofName? f.baseType

/-- Must the field have a value? -/
def disallowsNull (f : Field) : Bool := !f.nullable

end Field

/-! ## §2. Entities. -/

/-- An entity: a type whose values are stored. -/
structure Entity where
  name : String
  pluralName : String
  fields : OrderedMap Field
  deriving DecidableEq

namespace Entity

/-- The field under a key. -/
def field? (e : Entity) (key : String) : Option Field := e.fields.get? key

/-- The fields that are stored in a column. -/
def primitiveFields (e : Entity) : List Field :=
  e.fields.values.filter fun f => f.association.isNone

/-- The fields that are associations, with their kinds. -/
def associations (e : Entity) : List (Field × Association) :=
  e.fields.values.filterMap fun f => f.association.map fun kind => (f, kind)

/-- The associations to `target` whose kind passes the test. -/
def associationsTo (e : Entity) (target : String)
    (test : Association → Bool) : List Field :=
  (e.associations.filter fun a => a.1.baseType = target && test a.2).map
    Prod.fst

end Entity

/-! ## §3. Schemas. -/

/-- A schema: its entities in order. -/
structure Schema where
  entities : OrderedMap Entity
  deriving DecidableEq

namespace Schema

instance : Inhabited Schema := ⟨⟨.empty⟩⟩

/-- The entity under a key. -/
def get? (s : Schema) (key : String) : Option Entity := s.entities.get? key

/-- Is there an entity under this key? -/
def contains (s : Schema) (key : String) : Bool := s.entities.contains key

/-- The entities in order. -/
def toList (s : Schema) : List Entity := s.entities.values

/-- Number of entities. -/
def size (s : Schema) : Nat := s.entities.size

/-- The schema that has each entity under its own name. -/
def ofList (es : List Entity) : Schema :=
  ⟨.ofList (es.map fun e => (e.name, e))⟩

/-- Every association field of every entity, in order. -/
def associations (s : Schema) : List (Entity × Field × Association) :=
  s.toList.flatMap fun e => e.associations.map fun a => (e, a.1, a.2)

end Schema

end SchemaTables
