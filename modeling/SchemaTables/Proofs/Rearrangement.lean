/-
  SchemaTables.Proofs.Rearrangement
  ─────────────────────────────────
  **SCHEMAS IN ANOTHER ORDER.**

  Two schemas are rearrangements of each other if they have the same entities
  with the same fields, all under the same keys, and differ only in the order
  of the entities and in that of the fields within entities.

  What is looked up is then the same, but for the order of fields
  (`Rearranged.get?`), and so is what is listed, but for the order of the
  list (`Rearranged.associations`).
-/
import Mathlib.Data.List.Perm.Basic
import SchemaTables.Proofs.Schema
import SchemaTables.Proofs.Steps

namespace SchemaTables

/-! ## §1. Entities. -/

/-- The entity `e'` is `e` with its fields in any order. -/
structure Entity.Rearranged (e e' : Entity) : Prop where
  name : e'.name = e.name
  plural : e'.pluralName = e.pluralName
  fields : e.fields.entries.Perm e'.fields.entries

namespace Entity.Rearranged

variable {e e' : Entity}

theorem symm (h : e.Rearranged e') : e'.Rearranged e :=
  ⟨h.name.symm, h.plural.symm, h.fields.symm⟩

theorem values (h : e.Rearranged e') :
    e.fields.values.Perm e'.fields.values :=
  h.fields.map Prod.snd

theorem primitiveFields (h : e.Rearranged e') :
    e.primitiveFields.Perm e'.primitiveFields :=
  h.values.filter _

theorem associations (h : e.Rearranged e') :
    e.associations.Perm e'.associations :=
  h.values.filterMap _

theorem associationsTo (h : e.Rearranged e') (target : String)
    (test : Association → Bool) :
    (e.associationsTo target test).Perm (e'.associationsTo target test) :=
  (h.associations.filter _).map _

end Entity.Rearranged

/-! ## §2. Schemas. -/

/-- The schema `s'` is `s` with its entities in any order, and so the fields
of each. -/
def Schema.Rearranged (s s' : Schema) : Prop :=
  ∃ entries, s.entities.entries.Perm entries ∧
    List.Forall₂ (fun x y => x.1 = y.1 ∧ x.2.Rearranged y.2) entries
      s'.entities.entries

namespace Schema.Rearranged

variable {s s' : Schema} {e e' : Entity} {k : String}

theorem symm (h : s.Rearranged s') : s'.Rearranged s := by
  obtain ⟨entries, hperm, hentries⟩ := h
  have hback : List.Forall₂ (fun y x => y.1 = x.1 ∧ y.2.Rearranged x.2)
      s'.entities.entries entries :=
    hentries.flip.imp fun _ _ hxy => ⟨hxy.1.symm, hxy.2.symm⟩
  -- the order may be changed before or after passing to the other entities
  have hcomp : Relation.Comp (List.Forall₂ fun y x : String × Entity =>
      y.1 = x.1 ∧ y.2.Rearranged x.2) List.Perm s'.entities.entries
        s.entities.entries :=
    ⟨entries, hback, hperm.symm⟩
  rw [List.forall₂_comp_perm_eq_perm_comp_forall₂] at hcomp
  exact hcomp

theorem get? (h : s.Rearranged s') (hk : s.get? k = some e) :
    ∃ e', s'.get? k = some e' ∧ e.Rearranged e' := by
  obtain ⟨entries, hperm, hentries⟩ := h
  have hmem : (k, e) ∈ entries :=
    hperm.mem_iff.mp (OrderedMap.mem_entries_iff.mpr hk)
  obtain ⟨⟨k', e'⟩, hmem', rfl, he⟩ :=
    exists_right_of_forall₂ hentries _ hmem
  exact ⟨e', OrderedMap.mem_entries_iff.mp hmem', he⟩

theorem entitiesKeyed (h : s.Rearranged s') (hkeyed : s.EntitiesKeyed) :
    s'.EntitiesKeyed := by
  intro k e' hk
  obtain ⟨e, hget, he⟩ := h.symm.get? hk
  rw [← he.name]
  exact hkeyed k e hget

/-- Entities of one name are rearrangements of each other. -/
theorem of_name (h : s.Rearranged s') (hkeyed : s.EntitiesKeyed)
    (he : e ∈ s.toList) (he' : e' ∈ s'.toList) (hname : e.name = e'.name) :
    e.Rearranged e' := by
  obtain ⟨e'', hget, hre⟩ := h.get? (hkeyed.get?_name he)
  rw [hname, (h.entitiesKeyed hkeyed).get?_name he'] at hget
  cases hget
  exact hre

/-- The associations are the same, but for their order and that of the fields
of their entities. -/
theorem associations (h : s.Rearranged s') :
    ∃ as, s.associations.Perm as ∧
      List.Forall₂ (fun a b => a.1.Rearranged b.1 ∧ a.2 = b.2) as
        s'.associations := by
  obtain ⟨entries, hperm, hentries⟩ := h
  have hvalues : s.toList.Perm (entries.map Prod.snd) := hperm.map Prod.snd
  have hsame : List.Forall₂ Entity.Rearranged (entries.map Prod.snd)
      s'.toList :=
    List.forall₂_map_left_iff.mpr
      (List.forall₂_map_right_iff.mpr (hentries.imp fun _ _ hxy => hxy.2))
  -- entity by entity, the fields are put into the other order
  have hfields : ∀ {es es' : List Entity},
      List.Forall₂ Entity.Rearranged es es' →
      ∃ as, (es.flatMap fun e => e.associations.map fun a => (e, a.1, a.2)).Perm
          as ∧
        List.Forall₂ (fun a b => a.1.Rearranged b.1 ∧ a.2 = b.2) as
          (es'.flatMap fun e => e.associations.map fun a => (e, a.1, a.2)) := by
    intro es es' hes
    induction hes with
    | nil => exact ⟨[], .refl _, .nil⟩
    | @cons e e' es es' he _ ih =>
        obtain ⟨as, has, hrest⟩ := ih
        refine ⟨(e'.associations.map fun a => (e, a.1, a.2)) ++ as, ?_, ?_⟩
        · rw [List.flatMap_cons]
          exact (he.associations.map _).append has
        · rw [List.flatMap_cons]
          apply List.rel_append _ hrest
          rw [List.forall₂_map_left_iff, List.forall₂_map_right_iff,
            List.forall₂_same]
          exact fun _ _ => ⟨he, rfl⟩
  obtain ⟨as, has, hrel⟩ := hfields hsame
  exact ⟨as, (hvalues.flatMap_right _).trans has, hrel⟩

end Schema.Rearranged

/-! ## §3. From last to first. -/

/-- The entity with its fields from last to first. -/
def Entity.turned (e : Entity) : Entity :=
  { e with
    fields := ⟨e.fields.entries.reverse,
      ((List.reverse_perm _).map Prod.fst).nodup_iff.mpr e.fields.distinct⟩ }

/-- The schema with its entities from last to first, and so the fields of
each. -/
def Schema.turned (s : Schema) : Schema where
  entities :=
    ⟨s.entities.entries.reverse.map fun x => (x.1, x.2.turned), by
      rw [List.map_map]
      exact ((List.reverse_perm _).map Prod.fst).nodup_iff.mpr
        s.entities.distinct⟩

theorem Schema.rearranged_turned (s : Schema) : s.Rearranged s.turned := by
  refine ⟨s.entities.entries.reverse, (List.reverse_perm _).symm, ?_⟩
  unfold Schema.turned
  rw [List.forall₂_map_right_iff, List.forall₂_same]
  intro x _
  exact ⟨rfl, rfl, rfl, (List.reverse_perm _).symm⟩

end SchemaTables
