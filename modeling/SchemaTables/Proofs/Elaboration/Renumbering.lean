/-
  SchemaTables.Proofs.Elaboration.Renumbering
  ───────────────────────────────────────────
  **THE NUMBERS OF DOCUMENTS ARE ONLY CARRIED ALONG.**

  Which document something stands in shows in the location of an error and
  nowhere else.  So when the documents are numbered anew, errors are numbered
  anew in the same way, and warnings and results stay:

      check (x.renumber ρ)   =   (check x).mapError (renumber ρ)

  This holds of every check of a declaration and of its fields; in
  `elaborateAll_renumber` it holds of all of them together.
-/
import SchemaTables.Elaboration.Elaborate
import SchemaTables.Proofs.Steps

namespace SchemaTables.Elaboration

open Sdl

/-! ## §1. Numbering anew. -/

def Location.renumber (ρ : Nat → Nat) (l : Location) : Location :=
  { l with document := ρ l.document }

def FieldSite.renumber (ρ : Nat → Nat) (site : FieldSite) : FieldSite :=
  { site with location := site.location.renumber ρ }

/-- The same error, with the document of its location numbered anew. -/
def ElaborationError.renumber (ρ : Nat → Nat) :
    ElaborationError → ElaborationError
  | .missingAssociation site => .missingAssociation (site.renumber ρ)
  | .cardinality site kind mismatch =>
      .cardinality (site.renumber ρ) kind mismatch
  | .unknownType site type => .unknownType (site.renumber ρ) type
  | .conflictingMarkers site first second =>
      .conflictingMarkers (site.renumber ρ) first second
  | .nestingTooDeep site limit => .nestingTooDeep (site.renumber ρ) limit
  | .duplicateField site => .duplicateField (site.renumber ρ)
  | .duplicateType type location =>
      .duplicateType type (location.renumber ρ)
  | .extendsUnknownType type location =>
      .extendsUnknownType type (location.renumber ρ)
  | .invalidPlural type fault location =>
      .invalidPlural type fault (location.renumber ρ)

def Placed.renumber {α : Type} (ρ : Nat → Nat) (p : Placed α) : Placed α :=
  { p with document := ρ p.document }

def Declaration.renumber (ρ : Nat → Nat) (d : Declaration) : Declaration :=
  { d with fields := d.fields.map (Placed.renumber ρ) }

namespace Report

variable {α β : Type} {g : ElaborationError → ElaborationError}

/-- The same report with another error, if there is one. -/
def mapError (g : ElaborationError → ElaborationError) (r : Report α) :
    Report α :=
  ⟨r.warnings, r.result.mapError g⟩

theorem mapError_bind (r : Report α) (next : α → Report β) :
    (r >>= next).mapError g
      = r.mapError g >>= fun a => (next a).mapError g := by
  obtain ⟨warnings, result⟩ := r
  cases result <;> rfl

theorem mapError_ofResult (r : Except ElaborationError α) :
    (ofResult r).mapError g = ofResult (r.mapError g) := rfl

end Report

/-! ## §2. One field. -/

section Fields

variable (ρ : Nat → Nat) (options : Options) (entities : List String)
  (site : FieldSite)

theorem markedAssociation_renumber (directives : List Directive) :
    markedAssociation (site.renumber ρ) directives =
      (markedAssociation site directives).mapError (.renumber ρ) := by
  unfold markedAssociation
  cases markers directives with
  | nil => rfl
  | cons first rest =>
      dsimp only
      cases rest.find? fun kind => kind != first <;> rfl

theorem inferAssociation_renumber (f : FieldDefinition) :
    inferAssociation options (site.renumber ρ) f =
      (inferAssociation options site f).mapError (.renumber ρ) := by
  unfold inferAssociation
  rw [markedAssociation_renumber, mapError_bind]
  congr
  funext marked
  cases marked with
  | some kind => rfl
  | none =>
      dsimp only
      split <;> rfl

theorem checkAssociation_renumber (field : Field) :
    checkAssociation (site.renumber ρ) field =
      (checkAssociation site field).mapError (.renumber ρ) := by
  unfold checkAssociation
  split
  · rfl
  · cases field.association with
    | none => rfl
    | some kind =>
        dsimp only
        split
        · rfl
        · split <;> rfl

theorem checkTarget_renumber (field : Field) :
    checkTarget (site.renumber ρ) entities field =
      (checkTarget site entities field).mapError (.renumber ρ) := by
  unfold checkTarget
  split <;> rfl

theorem elaborateField_renumber (f : FieldDefinition) :
    elaborateField options entities (site.renumber ρ) f =
      (elaborateField options entities site f).mapError (.renumber ρ) := by
  unfold elaborateField
  simp only [Report.mapError_bind, Report.mapError_ofResult]
  rw [inferAssociation_renumber]
  cases FieldType.of? f.type with
  | none => rfl
  | some type =>
      dsimp only
      -- warnings tell a field by its name, not by its place
      simp only [checkAssociation_renumber, checkTarget_renumber]
      rfl

end Fields

/-! ## §3. All fields. -/

section All

variable (ρ : Nat → Nat) (options : Options) (names : List String)

theorem elaborateFields_renumber (d : Declaration) :
    ∀ fs : List (Placed FieldDefinition),
      elaborateFields options names (d.renumber ρ)
          (fs.map (Placed.renumber ρ)) =
        (elaborateFields options names d fs).mapError (.renumber ρ)
  | [] => rfl
  | f :: rest => by
      have hfield : elaborateField options names
          ((d.renumber ρ).site (f.renumber ρ)) f.value =
            (elaborateField options names (d.site f) f.value).mapError
              (.renumber ρ) :=
        elaborateField_renumber ρ options names (d.site f) f.value
      rw [List.map_cons]
      unfold elaborateFields
      simp only [Report.mapError_bind]
      show elaborateField options names _ f.value >>= _ = _
      rw [hfield, elaborateFields_renumber d rest]
      rfl

theorem elaborateAll_renumber :
    ∀ ds : List Declaration,
      elaborateAll options names (ds.map (Declaration.renumber ρ)) =
        (elaborateAll options names ds).mapError (.renumber ρ)
  | [] => rfl
  | d :: rest => by
      have hfields := elaborateFields_renumber ρ options names d d.fields
      rw [List.map_cons]
      unfold elaborateAll
      simp only [Report.mapError_bind]
      show elaborateFields options names (d.renumber ρ)
        (d.fields.map (Placed.renumber ρ)) >>= _ = _
      rw [hfields, elaborateAll_renumber rest]
      rfl

/-! ## §4. Declarations. -/

theorem repeatedField?_renumber :
    ∀ (fs : List (Placed FieldDefinition)) (seen : List String),
      repeatedField? seen (fs.map (Placed.renumber ρ)) =
        (repeatedField? seen fs).map (Placed.renumber ρ)
  | [], _ => rfl
  | f :: rest, seen => by
      rw [List.map_cons]
      unfold repeatedField?
      show (if seen.contains f.value.name then _ else _) = _
      split
      · rfl
      · exact repeatedField?_renumber rest _

theorem checkDistinct_renumber (d : Declaration) :
    checkDistinct (d.renumber ρ) =
      (checkDistinct d).mapError (.renumber ρ) := by
  have hrepeated : repeatedField? [] (d.renumber ρ).fields
      = (repeatedField? [] d.fields).map (Placed.renumber ρ) :=
    repeatedField?_renumber ρ d.fields []
  unfold checkDistinct
  rw [hrepeated]
  cases repeatedField? [] d.fields <;> rfl

theorem checkAllDistinct_renumber :
    ∀ ds : List Declaration,
      (ds.map (Declaration.renumber ρ)).forM checkDistinct =
        (ds.forM checkDistinct).mapError (.renumber ρ)
  | [] => rfl
  | d :: rest => by
      show (checkDistinct (d.renumber ρ) >>= fun _ =>
          (rest.map (Declaration.renumber ρ)).forM checkDistinct) =
        (checkDistinct d >>= fun _ => rest.forM checkDistinct).mapError _
      rw [mapError_bind, checkDistinct_renumber,
        checkAllDistinct_renumber rest]

end All

end SchemaTables.Elaboration
