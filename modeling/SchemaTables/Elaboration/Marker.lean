/-
  SchemaTables.Elaboration.Marker
  ───────────────────────────────
  **THE ASSOCIATION THAT A FIELD IS MARKED WITH.**

  A directive named after a kind of association marks a field; it may be
  repeated, but two different ones contradict each other.  Without any such
  directive, and where it is asked for, a keyword in the description counts.
-/
import SchemaTables.Elaboration.Error
import SchemaTables.Sdl.Document

namespace SchemaTables.Elaboration

open Sdl

/-- How documents are to be read. -/
structure Options where
  /-- Does a keyword in a description mark a field? -/
  descriptionFallback : Bool := true
  deriving DecidableEq, Repr

/-- The kinds that directives name, in order. -/
def markers (directives : List Directive) : List Association :=
  directives.filterMap fun d => Association.ofKeyword? d.name

/-- The association that directives mark the field at `site` with. -/
def markedAssociation (site : FieldSite) (directives : List Directive) :
    Except ElaborationError (Option Association) :=
  match markers directives with
  | [] => .ok none
  | first :: rest =>
      match rest.find? fun kind => kind != first with
      | some second => .error (.conflictingMarkers site first second)
      | none => .ok (some first)

/-- The association of the field at `site`. -/
def inferAssociation (options : Options) (site : FieldSite)
    (f : FieldDefinition) : Except ElaborationError (Option Association) := do
  match ← markedAssociation site f.directives with
  | some kind => return some kind
  | none =>
      if options.descriptionFallback then
        return f.description.bind Association.inText?
      else return none

end SchemaTables.Elaboration
