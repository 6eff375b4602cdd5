/-
  SchemaTables.Proofs.Elaboration.Keyed
  ─────────────────────────────────────
  **A SCHEMA FROM DOCUMENTS IS WELL KEYED.**

  Elaborated entities are made of the declarations and their checked fields
  (`elaborateAll_eq_ok`), and maps are made by putting each thing under its
  own name.
-/
import SchemaTables.Elaboration.Elaborate
import SchemaTables.Proofs.Schema
import SchemaTables.Proofs.Steps

namespace SchemaTables.Elaboration

open Sdl

/-! ## §1. Reports. -/

section Reports

variable {α β : Type}

/-- The result of two parts is that of the second, if the first has one. -/
theorem Report.result_bind (r : Report α) (next : α → Report β) :
    (r >>= next).result = r.result >>= fun a => (next a).result := by
  show (r.andThen next).result = _
  unfold Report.andThen
  cases r.result <;> rfl

/-- The result of two parts that succeed is that of the second. -/
theorem Report.result_bind_eq_ok {r : Report α} {next : α → Report β}
    {b : β} :
    (r >>= next).result = .ok b ↔
      ∃ a, r.result = .ok a ∧ (next a).result = .ok b := by
  rw [Report.result_bind, bind_eq_ok]

end Reports

/-! ## §2. What an elaborated entity is. -/

/-- The entity `e` is made of the declaration `d`. -/
def MadeOf (options : Options) (names : List String) (d : Declaration)
    (e : Entity) : Prop :=
  ∃ fields, e = entityOf d fields ∧
    (elaborateFields options names d d.fields).result = .ok fields

/-- There is one entity per declaration, in order. -/
theorem elaborateAll_eq_ok {options : Options} {names : List String} :
    ∀ {ds : List Declaration} {es : List Entity},
      (elaborateAll options names ds).result = .ok es →
        List.Forall₂ (MadeOf options names) ds es
  | [], es, h => by
      cases h
      exact .nil
  | d :: rest, es, h => by
      unfold elaborateAll at h
      rw [Report.result_bind_eq_ok] at h
      obtain ⟨fields, hfields, h⟩ := h
      rw [Report.result_bind_eq_ok] at h
      obtain ⟨es', hrest, h⟩ := h
      cases h
      exact .cons ⟨fields, rfl, hfields⟩ (elaborateAll_eq_ok hrest)

theorem entityOf_field {d : Declaration} {fields : List Field} {j : String}
    {f : Field} (h : (entityOf d fields).field? j = some f) : f.name = j := by
  apply OrderedMap.ofList_forall (P := fun j f => f.name = j) _ h
  intro entry hentry
  rw [List.mem_map] at hentry
  obtain ⟨f', -, rfl⟩ := hentry
  rfl

/-! ## §3. The schema. -/

theorem elaborate_eq_ok {options : Options} {docs : List Document}
    {s : Schema} (h : (elaborate options docs).result = .ok s) :
    ∃ ds es, gather docs = .ok ds ∧
      (elaborateAll options (ds.map Declaration.name) ds).result = .ok es ∧
      s = .ofList es := by
  unfold elaborate at h
  rw [Report.result_bind_eq_ok] at h
  obtain ⟨ds, hds, h⟩ := h
  rw [Report.result_bind_eq_ok] at h
  obtain ⟨es, hes, h⟩ := h
  cases h
  exact ⟨ds, es, hds, hes, rfl⟩

/-- A schema from documents has everything under its own name. -/
theorem wellKeyed_of_elaborate {options : Options} {docs : List Document}
    {s : Schema} (h : (elaborate options docs).result = .ok s) :
    s.WellKeyed := by
  obtain ⟨ds, es, -, hes, rfl⟩ := elaborate_eq_ok h
  have hmade : ∀ k e, (Schema.ofList es).get? k = some e →
      e.name = k ∧ ∀ j f, e.field? j = some f → f.name = j := by
    intro k e hget
    apply OrderedMap.ofList_forall
      (P := fun k e => e.name = k ∧ ∀ j f, e.field? j = some f → f.name = j)
      _ hget
    intro entry hentry
    rw [List.mem_map] at hentry
    obtain ⟨e', he', rfl⟩ := hentry
    obtain ⟨d, -, fields, rfl, -⟩ :=
      exists_left_of_forall₂ (elaborateAll_eq_ok hes) e' he'
    exact ⟨rfl, fun j f hf => entityOf_field hf⟩
  exact ⟨fun k e hget => (hmade k e hget).1,
    fun k e hget => (hmade k e hget).2⟩

end SchemaTables.Elaboration
