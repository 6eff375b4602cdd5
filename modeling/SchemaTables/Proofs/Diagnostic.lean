/-
  SchemaTables.Proofs.Diagnostic
  ──────────────────────────────
  **ERRORS ARE SHOWN WHERE THEY ARE.**

  An error says where in the documents something is wrong.  Documents that are
  read from files have all their positions in lines of these files
  (`within_of_parse`), so the error can be shown: its diagnostic lies in the
  file that the document was read from, and begins in the line of what is
  wrong (`elaborate_error_located`).

  Nothing more is asked of the positions, so this holds of any way of reading
  that keeps them in the lines.
-/
import SchemaTables.Proofs.Elaboration.Locations
import SchemaTables.Proofs.Parsing
import SchemaTables.Proofs.SourceMap

namespace SchemaTables

open Sdl Elaboration Text

/-! ## §1. Positions in documents. -/

/-- All types and fields of the document have positions in lines of the
text. -/
structure Sdl.Document.Within (text : List Char) (d : Document) : Prop where
  type : ∀ o ∈ d.objects, o.position.Within text
  field : ∀ o ∈ d.objects, ∀ f ∈ o.fields, f.position.Within text

/-- Lines are counted by their breaks. -/
theorem line_afterText (cs : List Char) :
    (Position.afterText cs).line = cs.count '\n' + 1 := by
  have key : ∀ (cs : List Char) (p : Position),
      (cs.foldl Position.step p).line = p.line + cs.count '\n' := by
    intro cs
    induction cs with
    | nil => intro p; rfl
    | cons c cs ih =>
        intro p
        rw [List.foldl_cons, ih]
        unfold Position.step
        by_cases hc : c = '\n'
        · simp [hc]
          omega
        · by_cases hr : c = '\r' <;> simp [hc, hr]
  unfold Position.afterText
  rw [key]
  exact Nat.add_comm _ _

theorem within_positionOf (text : List Char) (t : ParseTree Rule) :
    (positionOf text t).Within text := by
  have hle : (text.take t.start).count '\n' ≤ text.count '\n' :=
    (List.take_sublist _ _).count_le _
  unfold positionOf Position.Within
  rw [line_afterText, length_splitLines]
  omega

theorem object_of_definitionOf {text : List Char} {t : ParseTree Rule}
    {o : ObjectType} (h : definitionOf text t = .object o) :
    ∃ t', o = objectOf text t' := by
  unfold definitionOf at h
  split at h
  · cases h
  · split at h
    · cases h
      exact ⟨_, rfl⟩
    · cases h
    · cases h
  · cases h

/-- A document that is read has its positions in the lines of its text. -/
theorem within_of_parse {source : String} {d : Document}
    (h : Document.parse source = .ok d) : d.Within source.toList := by
  have hobject : ∀ o ∈ d.objects, ∃ t, o = objectOf source.toList t := by
    unfold Document.parse at h
    dsimp only at h
    split at h
    · cases h
    · split at h
      · cases h
      · cases h
        intro o ho
        obtain ⟨definition, hdefinition, heq⟩ := List.mem_filterMap.mp ho
        obtain ⟨t, -, rfl⟩ := List.mem_map.mp hdefinition
        split at heq
        · next o' hobject =>
            cases heq
            exact object_of_definitionOf hobject
        · cases heq
  constructor
  · intro o ho
    obtain ⟨t, rfl⟩ := hobject o ho
    exact within_positionOf _ _
  · intro o ho f hf
    obtain ⟨t, rfl⟩ := hobject o ho
    unfold objectOf at hf
    dsimp only at hf
    split at hf
    · obtain ⟨t', -, rfl⟩ := List.mem_map.mp hf
      exact within_positionOf _ _
    · cases hf

/-- Each of the documents has its positions in the lines of its file. -/
def AllWithin (files : List SourceFile) (docs : List Document) : Prop :=
  List.Forall₂ (fun f d => d.Within f.text.toList) files docs

theorem allWithin_of_parseFiles {files : List SourceFile}
    {docs : List Document} (h : parseFiles files = .ok docs) :
    AllWithin files docs :=
  (forall₂_of_parseFiles h).imp fun _ _ => within_of_parse

/-! ## §2. Errors in files. -/

/-- The error has a diagnostic, and it lies where the error is. -/
def ShownIn (m : SourceMap) (x : ElaborationError) : Prop :=
  ∃ d, (LoadError.elaboration x).diagnostic? m = some d ∧
    d.message = x.message ∧ d.span.LiesAt m x.location

section Shown

variable {options : Options} {docs : List Document} {x : ElaborationError}
  {files : List SourceFile}

/-- What stands in documents stands in a line of a file. -/
theorem within_of_standsIn (h : x.StandsIn docs)
    (hfiles : AllWithin files docs) :
    ∃ f, files[x.location.document]? = some f ∧
      x.location.position.Within f.text.toList := by
  have htype : ∀ {type l}, TypeStandsAt docs type l →
      ∃ f, files[l.document]? = some f ∧
        l.position.Within f.text.toList := by
    intro type l hstands
    obtain ⟨d, o, hd, ho, -, hposition⟩ := hstands
    obtain ⟨f, hf, hwithin⟩ := getElem?_left_of_forall₂ hfiles hd
    exact ⟨f, hf, hposition ▸ hwithin.type o ho⟩
  have hfield : ∀ {site}, FieldStandsAt docs site →
      ∃ f, files[site.location.document]? = some f ∧
        site.location.position.Within f.text.toList := by
    intro site hstands
    obtain ⟨d, o, g, hd, ho, -, hg, -, hposition⟩ := hstands
    obtain ⟨f, hf, hwithin⟩ := getElem?_left_of_forall₂ hfiles hd
    exact ⟨f, hf, hposition ▸ hwithin.field o ho g hg⟩
  cases x with
  | missingAssociation => exact hfield h
  | cardinality => exact hfield h
  | unknownType => exact hfield h
  | conflictingMarkers => exact hfield h
  | nestingTooDeep => exact hfield h
  | duplicateField => exact hfield h.1
  | duplicateType => exact htype h.1
  | extendsUnknownType => exact htype h
  | invalidPlural => exact htype h

theorem shownIn_of_standsIn (h : x.StandsIn docs)
    (hfiles : AllWithin files docs) : ShownIn ⟨files⟩ x := by
  obtain ⟨f, hf, hwithin⟩ := within_of_standsIn h hfiles
  obtain ⟨s, hs, hlies⟩ := SourceMap.span?_of_line (m := ⟨files⟩) hf hwithin
  refine ⟨⟨x.message, s⟩, ?_, rfl, hlies⟩
  show Diagnostic.at? ⟨files⟩ x.location x.message = _
  unfold Diagnostic.at?
  rw [hs]
  rfl

/-- An error stands where it says, and is shown there in the files that the
documents were read from. -/
theorem elaborate_error_located
    (h : (elaborate options docs).result = .error x) :
    x.StandsIn docs ∧
      (∀ files, AllWithin files docs → ShownIn ⟨files⟩ x) ∧
      ∀ files, parseFiles files = .ok docs → ShownIn ⟨files⟩ x := by
  have hstands := standsIn_of_elaborate h
  refine ⟨hstands, ?_, ?_⟩
  · intro files hfiles
    exact shownIn_of_standsIn hstands hfiles
  · intro files hparse
    exact shownIn_of_standsIn hstands (allWithin_of_parseFiles hparse)

/-- Two files, of which the second gives a book the same field once more. -/
def shelfFiles : List SourceFile :=
  [ ⟨"book.graphql",
      "type Book @plural(name: \"Books\") \x7b\n  id: ID\n\x7d\n"⟩,
    ⟨"more.graphql",
      "\nextend type Book \x7b\n  isbn: String\n  id: ID\n\x7d\n"⟩ ]

/-- The field that there are two of: the one in the second file. -/
def secondId : FieldSite := ⟨"Book", "id", ⟨1, ⟨4, 3⟩⟩⟩

/-- The extension is in the second file, and so is the error. -/
theorem elaborate_error_located_shelf :
    ∃ docs, parseFiles shelfFiles = .ok docs ∧
      (elaborate {} docs).result = .error (.duplicateField secondId) ∧
      FieldRepeatedAt docs secondId ∧
      ShownIn ⟨shelfFiles⟩ (.duplicateField secondId) := by
  have hrun : ((parseFiles shelfFiles).toOption.map fun docs =>
      match (elaborate {} docs).result with
      | .error x => some x
      | .ok _ => none) = some (some (.duplicateField secondId)) := by
    decide +kernel
  cases hparse : parseFiles shelfFiles with
  | error e =>
      rw [hparse] at hrun
      cases hrun
  | ok docs =>
      rw [hparse] at hrun
      cases hresult : (elaborate {} docs).result with
      | ok s =>
          simp [Except.toOption, hresult] at hrun
      | error x =>
          simp only [Except.toOption, Option.map_some, hresult,
            Option.some.injEq] at hrun
          subst hrun
          obtain ⟨hstands, -, hshown⟩ := elaborate_error_located hresult
          exact ⟨docs, rfl, hresult, hstands.2, hshown _ hparse⟩

end Shown

end SchemaTables
