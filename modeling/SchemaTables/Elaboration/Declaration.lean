/-
  SchemaTables.Elaboration.Declaration
  ────────────────────────────────────
  **GATHERING THE DECLARATIONS OF ENTITIES.**

  An entity is declared by one object type and any number of extensions, in
  whatever documents.  Its fields are those of the type followed by those of
  the extensions, in the order of the documents.

  Root operation types describe operations and declare nothing: `Query`,
  `Mutation`, `Subscription`, and every type that a schema definition of any
  document names as a root.

  Gathering goes over all types, then over all extensions, then over the
  fields of all declarations; the first fault ends it.
-/
import SchemaTables.Elaboration.Error
import SchemaTables.Sdl.Document

namespace SchemaTables.Elaboration

open Sdl

/-! ## §1. Object types in documents. -/

/-- Something in a document, with the number of the document. -/
structure Placed (α : Type) where
  document : Nat
  value : α

/-- The location of an object type. -/
def Placed.typeLocation (o : Placed ObjectType) : Location :=
  ⟨o.document, o.value.position⟩

/-- The location of a field. -/
def Placed.fieldLocation (f : Placed FieldDefinition) : Location :=
  ⟨f.document, f.value.position⟩

/-- The object types of documents that are numbered from `n` on. -/
def objectsFrom (n : Nat) : List Document → List (Placed ObjectType)
  | [] => []
  | d :: ds => d.objects.map (⟨n, ·⟩) ++ objectsFrom (n + 1) ds

/-- The names of the root operation types. -/
def rootTypes (docs : List Document) : List String :=
  ["Query", "Mutation", "Subscription"] ++ docs.flatMap Document.roots

/-- The object types of all documents, without the root types. -/
def entityTypes (docs : List Document) : List (Placed ObjectType) :=
  let roots := rootTypes docs
  (objectsFrom 0 docs).filter fun o => !roots.contains o.value.name

/-- The fields of an object type, each with its document. -/
def placedFields (o : Placed ObjectType) : List (Placed FieldDefinition) :=
  o.value.fields.map (⟨o.document, ·⟩)

/-! ## §2. Declared plurals. -/

/-- Is this the directive that declares a plural? -/
def isPlural (d : Directive) : Bool := d.name = "plural"

/-- The plural that a type declares, if it does. -/
def declaredPlural (o : Placed ObjectType) :
    Except ElaborationError (Option String) :=
  match o.value.directives.find? isPlural with
  | none => .ok none
  | some d =>
      match d.argument? "name" with
      | some (.string plural) =>
          if plural.isEmpty then
            .error (.invalidPlural o.value.name .noName o.typeLocation)
          else .ok (some plural)
      | _ => .error (.invalidPlural o.value.name .noName o.typeLocation)

/-! ## §3. Declarations. -/

/-- An entity as it is declared. -/
structure Declaration where
  name : String
  plural : Option String
  fields : List (Placed FieldDefinition)

namespace Declaration

/-- The field `f` of a declaration. -/
def site (d : Declaration) (f : Placed FieldDefinition) : FieldSite :=
  ⟨d.name, f.value.name, f.fieldLocation⟩

end Declaration

/-- Is a type of this name declared? -/
def isDeclared (name : String) (ds : List Declaration) : Bool :=
  ds.any fun d => d.name = name

/-- Declare one more type. -/
def declare (ds : List Declaration) (o : Placed ObjectType) :
    Except ElaborationError (List Declaration) := do
  if isDeclared o.value.name ds then
    throw (.duplicateType o.value.name o.typeLocation)
  let plural ← declaredPlural o
  return ds ++ [⟨o.value.name, plural, placedFields o⟩]

/-- Add the fields of an extension to the declaration of its type. -/
def addFields (o : Placed ObjectType) (ds : List Declaration) :
    List Declaration :=
  ds.map fun d =>
    if d.name = o.value.name then
      { d with fields := d.fields ++ placedFields o }
    else d

/-- Take an extension into account. -/
def extendWith (ds : List Declaration) (o : Placed ObjectType) :
    Except ElaborationError (List Declaration) :=
  if o.value.directives.any isPlural then
    .error (.invalidPlural o.value.name .onExtension o.typeLocation)
  else if isDeclared o.value.name ds then .ok (addFields o ds)
  else .error (.extendsUnknownType o.value.name o.typeLocation)

/-- The first field of a list whose name stands before it. -/
def repeatedField? (seen : List String) :
    List (Placed FieldDefinition) → Option (Placed FieldDefinition)
  | [] => none
  | f :: rest =>
      if seen.contains f.value.name then some f
      else repeatedField? (f.value.name :: seen) rest

/-- Check that the fields of a declaration have distinct names. -/
def checkDistinct (d : Declaration) : Except ElaborationError Unit :=
  match repeatedField? [] d.fields with
  | some f => .error (.duplicateField (d.site f))
  | none => .ok ()

/-- The declarations that documents make, in the order of their types. -/
def gather (docs : List Document) :
    Except ElaborationError (List Declaration) := do
  let types := entityTypes docs
  let declared ←
    (types.filter fun o => !o.value.isExtension).foldlM declare []
  let merged ←
    (types.filter fun o => o.value.isExtension).foldlM extendWith declared
  merged.forM checkDistinct
  return merged

end SchemaTables.Elaboration
