/-
  SchemaTables.Elaboration.Error
  ──────────────────────────────
  **WHY DOCUMENTS DO NOT MAKE A SCHEMA.**

  Every error has a place in one of the documents: that of a type, or that of
  a field.
-/
import SchemaTables.Association
import SchemaTables.Sdl.Position

namespace SchemaTables.Elaboration

open Sdl

/-! ## §1. Places. -/

/-- A place in one of several documents. -/
structure Location where
  document : Nat
  position : Position
  deriving DecidableEq, Repr, Inhabited

/-- A field of an entity, and where it is declared. -/
structure FieldSite where
  entity : String
  field : String
  location : Location
  deriving DecidableEq, Repr

/-! ## §2. Errors. -/

/-- How a type and its association disagree. -/
inductive CardinalityMismatch where
  /-- A list with an association to a single entity. -/
  | listOfOne
  /-- A single value with an association to many entities. -/
  | scalarOfMany
  deriving DecidableEq, Repr

/-- What a disagreement amounts to. -/
def CardinalityMismatch.message : CardinalityMismatch → String
  | .listOfOne => "list type detected with non-many association"
  | .scalarOfMany => "scalar type detected with many association"

/-- What is wrong with the directive that declares a plural. -/
inductive PluralFault where
  /-- Its argument is missing, empty or no string. -/
  | noName
  /-- It stands on an extension. -/
  | onExtension
  deriving DecidableEq, Repr

/-- The text of a fault. -/
def PluralFault.message : PluralFault → String
  | .noName => "@plural requires a non-empty string argument 'name'"
  | .onExtension => "@plural cannot be used on a type extension"

/-- A reason for which documents make no schema. -/
inductive ElaborationError where
  | missingAssociation (site : FieldSite)
  | cardinality (site : FieldSite) (kind : Association)
      (mismatch : CardinalityMismatch)
  | unknownType (site : FieldSite) (type : String)
  | conflictingMarkers (site : FieldSite) (first second : Association)
  | nestingTooDeep (site : FieldSite) (limit : Nat)
  | duplicateField (site : FieldSite)
  | duplicateType (type : String) (location : Location)
  | extendsUnknownType (type : String) (location : Location)
  | invalidPlural (type : String) (fault : PluralFault)
      (location : Location)
  deriving DecidableEq, Repr

namespace ElaborationError

/-- Where the error is. -/
def location : ElaborationError → Location
  | .missingAssociation site => site.location
  | .cardinality site _ _ => site.location
  | .unknownType site _ => site.location
  | .conflictingMarkers site _ _ => site.location
  | .nestingTooDeep site _ => site.location
  | .duplicateField site => site.location
  | .duplicateType _ location => location
  | .extendsUnknownType _ location => location
  | .invalidPlural _ _ location => location

/-- The field that a text is about. -/
def about (site : FieldSite) (text : String) : String :=
  site.entity ++ "." ++ site.field ++ ": " ++ text

/-- The text of an error. -/
def message : ElaborationError → String
  | .missingAssociation site =>
      about site ("non-primitive data types require an association type ("
        ++ Association.keywords ++ ")")
  | .cardinality site _ mismatch => about site mismatch.message
  | .unknownType site type =>
      about site ("unknown type '" ++ type
        ++ "' (neither a primitive nor a declared type)")
  | .conflictingMarkers site first second =>
      about site ("conflicting association markers '@" ++ first.keyword
        ++ "' and '@" ++ second.keyword ++ "'")
  | .nestingTooDeep site limit =>
      about site ("type is nested more than " ++ toString limit
        ++ " levels deep")
  | .duplicateField site => about site "duplicate field definition"
  | .duplicateType type _ => "Duplicate type definition '" ++ type ++ "'"
  | .extendsUnknownType type _ =>
      "Cannot extend undeclared type '" ++ type ++ "'"
  | .invalidPlural type fault _ => type ++ ": " ++ fault.message

end ElaborationError

end SchemaTables.Elaboration
