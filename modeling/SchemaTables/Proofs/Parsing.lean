/-
  SchemaTables.Proofs.Parsing
  ───────────────────────────
  **FILES ARE PARSED ONE AFTER THE OTHER.**

  Either all files are documents, and then the documents stand in the order of
  the files (`forall₂_of_parseFiles`), or the first file that is none is
  reported, with its number and its path (`parseFiles_eq_error`).
-/
import SchemaTables.Loading
import SchemaTables.Proofs.Steps

namespace SchemaTables

open Sdl

variable {n : Nat} {f : SourceFile} {files rest : List SourceFile}
  {x : LoadError}

/-- The file is a document. -/
def SourceFile.Parses (f : SourceFile) : Prop :=
  ∃ d, Document.parse f.text = .ok d

/-- Of the files, the first that is no document stands behind those in
`before`, and `p` is what is reported about it. -/
def FirstUnparsed (files before : List SourceFile) (p : ParseFailure) :
    Prop :=
  ∃ f after e, files = before ++ f :: after ∧ (∀ g ∈ before, g.Parses) ∧
    Document.parse f.text = .error e ∧
    p = ⟨before.length, f.path, faultMessage e, some e.position⟩

/-! ## §1. One file. -/

/-- What is done with the first file, its parse already at hand. -/
theorem parseFrom_cons :
    parseFrom n (f :: rest) =
      match Document.parse f.text with
      | .error e =>
          Except.error
            (.parse ⟨n, f.path, faultMessage e, some e.position⟩)
      | .ok d => (parseFrom (n + 1) rest).map (d :: ·) := by
  -- not a term: as a definitional rule it would have the parser opened
  exact rfl

theorem parseFrom_cons_ok {d : Document} (h : Document.parse f.text = .ok d) :
    parseFrom n (f :: rest) = (parseFrom (n + 1) rest).map (d :: ·) := by
  rw [parseFrom_cons, h]

theorem parseFrom_cons_error {e : SyntaxError}
    (h : Document.parse f.text = .error e) :
    parseFrom n (f :: rest) =
      .error (.parse ⟨n, f.path, faultMessage e, some e.position⟩) := by
  rw [parseFrom_cons, h]

/-! ## §2. All files. -/

theorem forall₂_of_parseFrom (files : List SourceFile) :
    ∀ {n : Nat} {docs : List Document}, parseFrom n files = .ok docs →
      List.Forall₂ (fun f d => Document.parse f.text = .ok d) files docs := by
  induction files with
  | nil =>
      intro n docs h
      cases h
      exact .nil
  | cons f rest ih =>
      intro n docs h
      cases hf : Document.parse f.text with
      | error e =>
          rw [parseFrom_cons_error hf] at h
          cases h
      | ok d =>
          rw [parseFrom_cons_ok hf, map_eq_ok] at h
          obtain ⟨ds, hrest, rfl⟩ := h
          exact .cons hf (ih hrest)

/-- The documents are those of the files, in their order. -/
theorem forall₂_of_parseFiles {docs : List Document}
    (h : parseFiles files = .ok docs) :
    List.Forall₂ (fun f d => Document.parse f.text = .ok d) files docs :=
  forall₂_of_parseFrom files h

/-- What fails does so at some first file; the count goes on from `n`. -/
theorem firstUnparsed_of_parseFrom (files : List SourceFile) :
    ∀ {n : Nat}, parseFrom n files = .error x →
      ∃ before f after e, files = before ++ f :: after ∧
        (∀ g ∈ before, g.Parses) ∧ Document.parse f.text = .error e ∧
        x = .parse
          ⟨n + before.length, f.path, faultMessage e, some e.position⟩ := by
  induction files with
  | nil =>
      intro n h
      cases h
  | cons f rest ih =>
      intro n h
      cases hf : Document.parse f.text with
      | error e =>
          rw [parseFrom_cons_error hf] at h
          cases h
          exact ⟨[], f, rest, e, rfl, List.forall_mem_nil _, hf, rfl⟩
      | ok d =>
          rw [parseFrom_cons_ok hf, map_eq_error] at h
          obtain ⟨before, g, after, e, rfl, hbefore, hg, rfl⟩ := ih h
          refine ⟨f :: before, g, after, e, rfl,
            List.forall_mem_cons.mpr ⟨⟨d, hf⟩, hbefore⟩, hg, ?_⟩
          rw [List.length_cons, Nat.add_assoc, Nat.add_comm 1]

theorem parseFrom_of_firstUnparsed {after : List SourceFile}
    {e : SyntaxError} (hf : Document.parse f.text = .error e)
    (before : List SourceFile) :
    ∀ {n : Nat}, (∀ g ∈ before, g.Parses) →
      parseFrom n (before ++ f :: after) =
        .error (.parse
          ⟨n + before.length, f.path, faultMessage e, some e.position⟩) := by
  induction before with
  | nil =>
      intro n _
      exact parseFrom_cons_error hf
  | cons g before ih =>
      intro n hbefore
      obtain ⟨⟨d, hg⟩, hbefore⟩ := List.forall_mem_cons.mp hbefore
      rw [List.cons_append, parseFrom_cons_ok hg, map_eq_error, ih hbefore,
        List.length_cons, Nat.add_assoc, Nat.add_comm 1]

/-- Files that do not all parse fail with the first that does not, and in no
other way. -/
theorem parseFiles_eq_error :
    parseFiles files = .error x ↔
      ∃ before p, x = .parse p ∧ FirstUnparsed files before p := by
  constructor
  · intro h
    obtain ⟨before, f, after, e, hsplit, hbefore, hf, hx⟩ :=
      firstUnparsed_of_parseFrom files h
    rw [Nat.zero_add] at hx
    exact ⟨before, _, hx, f, after, e, hsplit, hbefore, hf, rfl⟩
  · intro h
    obtain ⟨before, p, rfl, f, after, e, rfl, hbefore, hf, rfl⟩ := h
    show parseFrom 0 _ = _
    rw [parseFrom_of_firstUnparsed hf before hbefore, Nat.zero_add]

end SchemaTables
