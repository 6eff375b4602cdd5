/-
  SchemaTables.Proofs.Elaboration.Refusal
  ───────────────────────────────────────
  **DOCUMENTS ARE REFUSED FOR THEIR FIRST FAULT.**

  Elaborating gathers the declarations and then goes through all fields of
  all of them.  Both parts report the faults of what they go through, in the
  order of `checks`; so the whole does:

      a schema       just where no check finds a fault
      the error x    just where x is the first fault along the checks

  The first faults are unique, although nothing in the rules says so: they are
  what a function gives.
-/
import SchemaTables.Proofs.Elaboration.Fields
import SchemaTables.Proofs.Elaboration.Gathering

namespace SchemaTables.Elaboration

open Sdl

section Refusal

variable {options : Options} {docs : List Document} {names : List String}

/-- The fields of a declaration report their faults in order. -/
theorem elaborateFields_reports {d : Declaration}
    (hnames : ∀ n, n ∈ names ↔ ∃ t ∈ baseTypes docs, t.value.name = n) :
    ∀ fs : List (Placed FieldDefinition),
      Reports (Fault options docs) (fs.map (.field d.name))
        (elaborateFields options names d fs).result
  | [] => Reports.ofOk
  | f :: rest => by
      have hfield : Reports (Fault options docs) [.field d.name f]
          (elaborateField options names (d.site f) f.value).result :=
        Reports.single fun x => elaborateField_fault hnames
      unfold elaborateFields
      rw [Report.result_bind, List.map_cons]
      apply hfield.bind
      intro field _
      rw [Report.result_bind]
      exact (elaborateFields_reports hnames rest).map _

/-- All fields of all declarations report their faults in order. -/
theorem elaborateAll_reports
    (hnames : ∀ n, n ∈ names ↔ ∃ t ∈ baseTypes docs, t.value.name = n)
    {types : List (Placed ObjectType)} {ds : List Declaration}
    (h : List.Forall₂ (Declares (extensions docs)) types ds) :
    Reports (Fault options docs) (types.flatMap (fieldChecks docs))
      (elaborateAll options names ds).result := by
  induction h with
  | nil => exact Reports.ofOk
  | @cons o d types ds hd _ ih =>
      have hfields : Reports (Fault options docs) (fieldChecks docs o)
          (elaborateFields options names d d.fields).result := by
        unfold fieldChecks
        rw [← hd.fields, ← hd.name]
        exact elaborateFields_reports hnames d.fields
      unfold elaborateAll
      rw [Report.result_bind, List.flatMap_cons]
      apply hfields.bind
      intro fields _
      rw [Report.result_bind]
      exact ih.map _

theorem elaborate_reports :
    Reports (Fault options docs) (checks docs)
      (elaborate options docs).result := by
  unfold elaborate checks
  rw [Report.result_bind]
  apply Reports.bind gather_reports
  intro ds hds
  have hdeclares := gather_eq_ok hds
  rw [Report.result_bind]
  exact (elaborateAll_reports (mem_names_iff hdeclares) hdeclares).map _

/-- Documents make a schema if and only if nothing is wrong with them, and
are refused with the first fault otherwise. -/
theorem elaborate_refuses_first_fault (options : Options)
    (docs : List Document) :
    ((∃ s, (elaborate options docs).result = .ok s) ↔
      Faultless (Fault options docs) (checks docs)) ∧
    ∀ x, (elaborate options docs).result = .error x ↔
      FirstFault (Fault options docs) (checks docs) x :=
  ⟨elaborate_reports.ok_iff, elaborate_reports⟩

end Refusal

end SchemaTables.Elaboration
