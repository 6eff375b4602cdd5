/-
  SchemaTables.Proofs.Elaboration.Faults
  ──────────────────────────────────────
  **WHAT CAN BE WRONG WITH DOCUMENTS.**

  The rules for documents, apart from any order in which a program may go
  through them.  Each rule is about one thing in the documents, a `Check`, and
  `Fault` says which error belongs to a thing that breaks it:

      type        the name is new, a declared plural has a name
      extension   it declares no plural, its type is declared
      field name  no field of the entity before it has the name
      field       its type and its association are in order

  A check comes with what it depends on, such as the types before a type; for
  the rest a fault looks at the documents as a whole, so that an extension may
  stand before its type and in another document.

  `checks` lists all things in the order in which their faults count: all
  types, then all extensions, then the names of all fields, then all fields.
-/
import SchemaTables.Elaboration.FieldType
import SchemaTables.Elaboration.Declaration
import SchemaTables.Elaboration.Marker
import SchemaTables.Primitive
import SchemaTables.Proofs.FirstFault

namespace SchemaTables

/-! ## §1. Layers of a type. -/

namespace Sdl.TypeRef

/-- The name in the innermost layer. -/
def base : TypeRef → String
  | .named name _ => name
  | .list item _ => item.base

/-- How many lists stand around the name? -/
def lists : TypeRef → Nat
  | .named _ _ => 0
  | .list item _ => item.lists + 1

/-- Does any of the layers forbid null? -/
def required : TypeRef → Bool
  | .named _ nullable => !nullable
  | .list item nullable => !nullable || item.required

end Sdl.TypeRef

namespace Elaboration

open Sdl

/-! ## §2. What documents declare. -/

/-- Does the name belong to a root operation type? -/
def IsRoot (docs : List Document) (name : String) : Prop :=
  name ∈ ["Query", "Mutation", "Subscription"] ∨ ∃ d ∈ docs, name ∈ d.roots

instance (docs : List Document) : DecidablePred (IsRoot docs) := fun _ =>
  inferInstanceAs (Decidable (_ ∨ _))

/-- The object types that declare entities, in the order of the documents. -/
def baseTypes (docs : List Document) : List (Placed ObjectType) :=
  (objectsFrom 0 docs).filter fun o =>
    ¬ IsRoot docs o.value.name ∧ o.value.isExtension = false

/-- The extensions of such types, in the order of the documents. -/
def extensions (docs : List Document) : List (Placed ObjectType) :=
  (objectsFrom 0 docs).filter fun o =>
    ¬ IsRoot docs o.value.name ∧ o.value.isExtension = true

/-- The fields of a type, its own first and then those of its extensions. -/
def mergedFields (exts : List (Placed ObjectType)) (o : Placed ObjectType) :
    List (Placed FieldDefinition) :=
  placedFields o ++
    (exts.filter fun x => x.value.name = o.value.name).flatMap placedFields

/-- The field `f` of an entity. -/
def siteOf (entity : String) (f : Placed FieldDefinition) : FieldSite :=
  ⟨entity, f.value.name, f.fieldLocation⟩

/-- The association of a field whose directives do not contradict each
other: the one that they name, else, if that is asked for, the one in the
description. -/
def associationOf (options : Options) (f : FieldDefinition) :
    Option Association :=
  (markers f.directives).head?.or <|
    if options.descriptionFallback then
      f.description.bind Association.inText?
    else none

/-- The field needs an association: nothing is wrong with its type or with
its directives, and the type is no primitive. -/
structure NeedsAssociation (f : FieldDefinition) : Prop where
  shallow : f.type.lists < 32
  agree : ∀ k ∈ markers f.directives, ∀ k' ∈ markers f.directives, k = k'
  entity : ∀ p : Primitive, f.type.base ≠ p.name

/-! ## §3. Faults. -/

/-- Something in documents that has to be in order. -/
inductive Check where
  /-- An object type, after those that stand before it. -/
  | type (earlier : List (Placed ObjectType)) (o : Placed ObjectType)
  | extension (o : Placed ObjectType)
  /-- The name of a field, after the fields that stand before it. -/
  | fieldName (entity : String) (earlier : List (Placed FieldDefinition))
      (f : Placed FieldDefinition)
  | field (entity : String) (f : Placed FieldDefinition)

/-- What is wrong with one thing in the documents. -/
inductive Fault (options : Options) (docs : List Document) :
    Check → ElaborationError → Prop where
  | duplicateType {earlier : List (Placed ObjectType)}
      {o : Placed ObjectType}
      (htaken : ∃ t ∈ earlier, t.value.name = o.value.name) :
      Fault options docs (.type earlier o)
        (.duplicateType o.value.name o.typeLocation)
  /-- The first directive for a plural has no name for it. -/
  | nameless {earlier : List (Placed ObjectType)} {o : Placed ObjectType}
      {before after : List Directive} {d : Directive}
      (hnew : ∀ t ∈ earlier, t.value.name ≠ o.value.name)
      (hsplit : o.value.directives = before ++ d :: after)
      (hfirst : ∀ d' ∈ before, d'.name ≠ "plural") (hd : d.name = "plural")
      (hnone : ∀ text, d.argument? "name" = some (.string text) →
        text = "") :
      Fault options docs (.type earlier o)
        (.invalidPlural o.value.name .noName o.typeLocation)
  | pluralOnExtension {o : Placed ObjectType}
      (hplural : ∃ d ∈ o.value.directives, d.name = "plural") :
      Fault options docs (.extension o)
        (.invalidPlural o.value.name .onExtension o.typeLocation)
  | extendsUnknownType {o : Placed ObjectType}
      (hnone : ∀ d ∈ o.value.directives, d.name ≠ "plural")
      (hunknown : ∀ t ∈ baseTypes docs, t.value.name ≠ o.value.name) :
      Fault options docs (.extension o)
        (.extendsUnknownType o.value.name o.typeLocation)
  | duplicateField {entity : String}
      {earlier : List (Placed FieldDefinition)} {f : Placed FieldDefinition}
      (htaken : ∃ g ∈ earlier, g.value.name = f.value.name) :
      Fault options docs (.fieldName entity earlier f)
        (.duplicateField (siteOf entity f))
  | nestingTooDeep {entity : String} {f : Placed FieldDefinition}
      (hdeep : 32 ≤ f.value.type.lists) :
      Fault options docs (.field entity f)
        (.nestingTooDeep (siteOf entity f) 32)
  /-- The first directive for an association and the first later one for
  another kind. -/
  | conflictingMarkers {entity : String} {f : Placed FieldDefinition}
      {first second : Association} {same later : List Association}
      (hshallow : f.value.type.lists < 32)
      (hsplit : markers f.value.directives
        = first :: (same ++ second :: later))
      (hsame : ∀ k ∈ same, k = first) (hother : second ≠ first) :
      Fault options docs (.field entity f)
        (.conflictingMarkers (siteOf entity f) first second)
  | missingAssociation {entity : String} {f : Placed FieldDefinition}
      (hneeds : NeedsAssociation f.value)
      (hnone : associationOf options f.value = none) :
      Fault options docs (.field entity f)
        (.missingAssociation (siteOf entity f))
  | listOfOne {entity : String} {f : Placed FieldDefinition}
      {kind : Association} (hneeds : NeedsAssociation f.value)
      (hkind : associationOf options f.value = some kind)
      (hlist : 0 < f.value.type.lists) (hone : kind.isMany = false) :
      Fault options docs (.field entity f)
        (.cardinality (siteOf entity f) kind .listOfOne)
  | scalarOfMany {entity : String} {f : Placed FieldDefinition}
      {kind : Association} (hneeds : NeedsAssociation f.value)
      (hkind : associationOf options f.value = some kind)
      (hscalar : f.value.type.lists = 0) (hmany : kind.isMany = true) :
      Fault options docs (.field entity f)
        (.cardinality (siteOf entity f) kind .scalarOfMany)
  | unknownType {entity : String} {f : Placed FieldDefinition}
      {kind : Association} (hneeds : NeedsAssociation f.value)
      (hkind : associationOf options f.value = some kind)
      (hmany : kind.isMany = true ↔ 0 < f.value.type.lists)
      (hunknown : ∀ t ∈ baseTypes docs, t.value.name ≠ f.value.type.base) :
      Fault options docs (.field entity f)
        (.unknownType (siteOf entity f) f.value.type.base)

/-! ## §4. The order of checks. -/

/-- The object types, each after those before it. -/
def typeChecks (docs : List Document) : List Check :=
  (withEarlier [] (baseTypes docs)).map fun p => .type p.1 p.2

/-- The names of the fields of one entity. -/
def fieldNameChecks (docs : List Document) (o : Placed ObjectType) :
    List Check :=
  (withEarlier [] (mergedFields (extensions docs) o)).map fun p =>
    .fieldName o.value.name p.1 p.2

/-- The fields of one entity. -/
def fieldChecks (docs : List Document) (o : Placed ObjectType) :
    List Check :=
  (mergedFields (extensions docs) o).map (.field o.value.name)

/-- What has to be in order before any field is looked at. -/
def gatherChecks (docs : List Document) : List Check :=
  typeChecks docs ++ ((extensions docs).map .extension ++
    (baseTypes docs).flatMap (fieldNameChecks docs))

/-- All that has to be in order. -/
def checks (docs : List Document) : List Check :=
  gatherChecks docs ++ (baseTypes docs).flatMap (fieldChecks docs)

end Elaboration

end SchemaTables
