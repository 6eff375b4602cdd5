/-
  SchemaTables.Elaboration.Elaborate
  ──────────────────────────────────
  **FROM DOCUMENTS TO A SCHEMA.**

  Every field of every declaration is checked before any entity is made, in
  the order of the declarations; the first fault is the answer.  A field is
  good if its type is a primitive, or if it has an association to a declared
  type that agrees with the type on whether there are many.

  A primitive has no association: where a field of primitive type is marked
  with one, the mark is ignored and a warning says so.
-/
import SchemaTables.Elaboration.Declaration
import SchemaTables.Elaboration.FieldType
import SchemaTables.Elaboration.Marker
import SchemaTables.Elaboration.Report
import SchemaTables.Schema
import SchemaTables.Text.Plural

namespace SchemaTables.Elaboration

open Sdl

/-! ## §1. One field. -/

/-- Check that the association of a field agrees with its type. -/
def checkAssociation (site : FieldSite) (f : Field) :
    Except ElaborationError Unit :=
  if f.primitive?.isSome then .ok ()
  else
    match f.association with
    | none => .error (.missingAssociation site)
    | some kind =>
        if f.isList && !kind.isMany then
          .error (.cardinality site kind .listOfOne)
        else if !f.isList && kind.isMany then
          .error (.cardinality site kind .scalarOfMany)
        else .ok ()

/-- Check that the target of an association is declared. -/
def checkTarget (site : FieldSite) (entities : List String) (f : Field) :
    Except ElaborationError Unit :=
  if f.association.isSome && !entities.contains f.baseType then
    .error (.unknownType site f.baseType)
  else .ok ()

/-- The warning about a field of type `type` with this mark. -/
def ignoredMark (site : FieldSite) (type : String) :
    Option Association → List Warning
  | some kind =>
      if Primitive.isName type then [⟨site.entity, site.field, kind, type⟩]
      else []
  | none => []

/-- A field of an entity, from its definition at `site`. -/
def elaborateField (options : Options) (entities : List String)
    (site : FieldSite) (f : FieldDefinition) : Report Field := do
  let type ← .ofResult <|
    match FieldType.of? f.type with
    | some type => .ok type
    | none => .error (.nestingTooDeep site maxLayers)
  let marked ← .ofResult (inferAssociation options site f)
  let _ ← ⟨ignoredMark site type.base marked, .ok ()⟩
  let field : Field := {
    name := f.name
    baseType := type.base
    nullable := !type.disallowsNull
    isList := type.isList
    association := if Primitive.isName type.base then none else marked }
  .ofResult (checkAssociation site field)
  .ofResult (checkTarget site entities field)
  return field

/-! ## §2. All fields. -/

/-- An entity with fields that are checked. -/
def entityOf (d : Declaration) (fields : List Field) : Entity where
  name := d.name
  pluralName := d.plural.getD (Text.pluralOf d.name)
  fields := .ofList (fields.map fun f => (f.name, f))

/-- The fields of a declaration. -/
def elaborateFields (options : Options) (entities : List String)
    (d : Declaration) : List (Placed FieldDefinition) → Report (List Field)
  | [] => return []
  | f :: rest => do
      let field ← elaborateField options entities (d.site f) f.value
      let fields ← elaborateFields options entities d rest
      return field :: fields

/-- The entities of declarations. -/
def elaborateAll (options : Options) (names : List String) :
    List Declaration → Report (List Entity)
  | [] => return []
  | d :: rest => do
      let fields ← elaborateFields options names d d.fields
      let entities ← elaborateAll options names rest
      return entityOf d fields :: entities

/-! ## §3. Documents. -/

/-- The schema of documents. -/
def elaborate (options : Options) (docs : List Document) : Report Schema := do
  let declarations ← .ofResult (gather docs)
  let names := declarations.map Declaration.name
  let entities ← elaborateAll options names declarations
  return .ofList entities

end SchemaTables.Elaboration
