/-
  SchemaTables.Proofs.Schema
  ──────────────────────────
  **WELL-KEYED AND WELL-TYPED SCHEMAS.**

  A schema that is made by hand may hold an entity or a field under any key.
  In a well-keyed schema the key is the name.  There entities and fields are
  told apart by their names, so that an association is known by the names of
  its entity and of its field (`WellKeyed.eq_of_names`).

  Nor need the types of a schema fit its associations.  In a well-typed one
  the fields without an association are those of primitive type, and an
  association leads to an entity of the schema.
-/
import SchemaTables.Proofs.OrderedMap
import SchemaTables.Schema

namespace SchemaTables

/-! ## §1. The associations of a schema. -/

theorem Entity.mem_associations {e : Entity} {f : Field}
    {kind : Association} :
    (f, kind) ∈ e.associations ↔
      f ∈ e.fields.values ∧ f.association = some kind := by
  unfold Entity.associations
  rw [List.mem_filterMap]
  constructor
  · intro hx
    obtain ⟨f', hf', heq⟩ := hx
    rw [Option.map_eq_some_iff] at heq
    obtain ⟨kind', hkind, heq⟩ := heq
    cases heq
    exact ⟨hf', hkind⟩
  · intro hx
    obtain ⟨hf, hkind⟩ := hx
    exact ⟨f, hf, by rw [hkind]; rfl⟩

theorem Entity.mem_associationsTo {e : Entity} {f : Field} {target : String}
    {test : Association → Bool} :
    f ∈ e.associationsTo target test ↔
      ∃ kind, (f, kind) ∈ e.associations ∧ f.baseType = target ∧
        test kind = true := by
  unfold Entity.associationsTo
  rw [List.mem_map]
  constructor
  · intro hx
    obtain ⟨⟨f', kind⟩, hmem, rfl⟩ := hx
    rw [List.mem_filter, Bool.and_eq_true, decide_eq_true_eq] at hmem
    exact ⟨kind, hmem.1, hmem.2.1, hmem.2.2⟩
  · intro hx
    obtain ⟨kind, hmem, htarget, htest⟩ := hx
    refine ⟨(f, kind), ?_, rfl⟩
    rw [List.mem_filter, Bool.and_eq_true, decide_eq_true_eq]
    exact ⟨hmem, htarget, htest⟩

/-- Two fields of one kind to one target are not the only one. -/
theorem Entity.length_associationsTo_ne_one {e : Entity} {f g : Field}
    {target : String} {test : Association → Bool}
    (hf : f ∈ e.associationsTo target test)
    (hg : g ∈ e.associationsTo target test) (hne : f ≠ g) :
    (e.associationsTo target test).length ≠ 1 := by
  intro hone
  obtain ⟨h, hh⟩ := List.length_eq_one_iff.mp hone
  rw [hh, List.mem_singleton] at hf hg
  exact hne (hf.trans hg.symm)

theorem Schema.mem_associations {s : Schema} {e : Entity} {f : Field}
    {kind : Association} :
    (e, f, kind) ∈ s.associations ↔
      e ∈ s.toList ∧ (f, kind) ∈ e.associations := by
  unfold Schema.associations
  rw [List.mem_flatMap]
  constructor
  · intro hx
    obtain ⟨e', he', hmem⟩ := hx
    rw [List.mem_map] at hmem
    obtain ⟨⟨f', kind'⟩, hmem, heq⟩ := hmem
    cases heq
    exact ⟨he', hmem⟩
  · intro hx
    obtain ⟨he, hmem⟩ := hx
    exact ⟨e, he, List.mem_map_of_mem hmem⟩

/-! ## §2. Own names. -/

/-- Every entity stands under its own name. -/
def Schema.EntitiesKeyed (s : Schema) : Prop :=
  ∀ k e, s.get? k = some e → e.name = k

theorem Schema.mem_toList {s : Schema} {k : String} {e : Entity}
    (h : s.get? k = some e) : e ∈ s.toList :=
  OrderedMap.mem_values_iff.mpr ⟨k, h⟩

namespace Schema.EntitiesKeyed

variable {s : Schema} {e e' : Entity}

/-- An entity can be found by its name. -/
theorem get?_name (h : s.EntitiesKeyed) (he : e ∈ s.toList) :
    s.get? e.name = some e := by
  obtain ⟨k, hk⟩ := OrderedMap.mem_values_iff.mp he
  rw [h k e hk]
  exact hk

theorem eq_of_name (h : s.EntitiesKeyed) (he : e ∈ s.toList)
    (he' : e' ∈ s.toList) (hname : e.name = e'.name) : e = e' := by
  have hget := h.get?_name he
  rw [hname, h.get?_name he'] at hget
  exact (Option.some.inj hget).symm

/-- The entities have distinct names: these are the keys. -/
theorem names_nodup (h : s.EntitiesKeyed) :
    (s.toList.map Entity.name).Nodup := by
  have hkeys : s.toList.map Entity.name = s.entities.keys := by
    unfold Schema.toList OrderedMap.values OrderedMap.keys
    rw [List.map_map, List.map_inj_left]
    intro entry hmem
    obtain ⟨k, e⟩ := entry
    exact h k e (OrderedMap.mem_entries_iff.mp hmem)
  rw [hkeys]
  exact s.entities.keys_nodup

/-- Entities of other names contribute nothing. -/
theorem filter_of_ne {es : List Entity} {n : String}
    (h : ∀ x ∈ es, x.name ≠ n) (p : Field × Association → Bool) :
    ((es.flatMap fun x => x.associations.map fun a => (x, a.1, a.2)).filter
      fun a => a.1.name = n && p a.2) = [] := by
  rw [List.filter_eq_nil_iff]
  intro a ha hname
  obtain ⟨x, hx, ha⟩ := List.mem_flatMap.mp ha
  obtain ⟨b, -, rfl⟩ := List.mem_map.mp ha
  rw [Bool.and_eq_true, decide_eq_true_eq] at hname
  exact h x hx hname.1

/-- The associations of the entity of a name are those of this entity. -/
theorem filter_associations (h : s.EntitiesKeyed) (he : e ∈ s.toList)
    (p : Field × Association → Bool) :
    (s.associations.filter fun a => a.1.name = e.name && p a.2) =
      (e.associations.filter p).map fun a => (e, a.1, a.2) := by
  obtain ⟨before, after, hsplit⟩ := List.append_of_mem he
  have hnames := h.names_nodup
  rw [hsplit, List.map_append, List.map_cons, List.perm_middle.nodup_iff,
    List.nodup_cons, List.mem_append, not_or] at hnames
  obtain ⟨⟨hbefore, hafter⟩, -⟩ := hnames
  have hown : ((e.associations.map fun a => (e, a.1, a.2)).filter
      fun a : Entity × Field × Association => a.1.name = e.name && p a.2) =
      (e.associations.filter p).map fun a => (e, a.1, a.2) := by
    rw [List.filter_map]
    simp [Function.comp_def]
  unfold Schema.associations
  rw [hsplit, List.flatMap_append, List.flatMap_cons, List.filter_append,
    List.filter_append, hown,
    filter_of_ne (fun x hx heq => hbefore (List.mem_map.mpr ⟨x, hx, heq⟩)),
    filter_of_ne (fun x hx heq => hafter (List.mem_map.mpr ⟨x, hx, heq⟩)),
    List.nil_append, List.append_nil]

end Schema.EntitiesKeyed

/-- Every entity and every field stands under its own name. -/
structure Schema.WellKeyed (s : Schema) : Prop where
  entity : ∀ k e, s.get? k = some e → e.name = k
  field : ∀ k e, s.get? k = some e →
    ∀ j f, e.field? j = some f → f.name = j

namespace Schema.WellKeyed

variable {s : Schema} {e e' : Entity} {f f' : Field}

theorem entitiesKeyed (h : s.WellKeyed) : s.EntitiesKeyed :=
  h.entity

theorem get?_name (h : s.WellKeyed) (he : e ∈ s.toList) :
    s.get? e.name = some e :=
  h.entitiesKeyed.get?_name he

theorem eq_of_name (h : s.WellKeyed) (he : e ∈ s.toList)
    (he' : e' ∈ s.toList) (hname : e.name = e'.name) : e = e' :=
  h.entitiesKeyed.eq_of_name he he' hname

theorem names_nodup (h : s.WellKeyed) :
    (s.toList.map Entity.name).Nodup :=
  h.entitiesKeyed.names_nodup

theorem eq_of_fieldName (h : s.WellKeyed) (he : e ∈ s.toList)
    (hf : f ∈ e.fields.values) (hf' : f' ∈ e.fields.values)
    (hname : f.name = f'.name) : f = f' := by
  have hkey := h.field _ e (h.get?_name he)
  obtain ⟨j, hj⟩ := OrderedMap.mem_values_iff.mp hf
  obtain ⟨j', hj'⟩ := OrderedMap.mem_values_iff.mp hf'
  have hjj : j = j' := by
    rw [← hkey j f hj, ← hkey j' f' hj', hname]
  rw [hjj, hj'] at hj
  exact (Option.some.inj hj).symm

/-- An association is known by the names of its entity and its field. -/
theorem eq_of_names {a b : Entity × Field × Association} (h : s.WellKeyed)
    (ha : a ∈ s.associations) (hb : b ∈ s.associations)
    (hentity : a.1.name = b.1.name) (hfield : a.2.1.name = b.2.1.name) :
    a = b := by
  obtain ⟨e, f, kind⟩ := a
  obtain ⟨e', f', kind'⟩ := b
  obtain ⟨he, hf⟩ := Schema.mem_associations.mp ha
  obtain ⟨he', hf'⟩ := Schema.mem_associations.mp hb
  have heq := h.eq_of_name he he' hentity
  subst heq
  obtain ⟨hmem, hkind⟩ := Entity.mem_associations.mp hf
  obtain ⟨hmem', hkind'⟩ := Entity.mem_associations.mp hf'
  have hfeq := h.eq_of_fieldName he hmem hmem' hfield
  subst hfeq
  rw [hkind] at hkind'
  cases hkind'
  rfl

end Schema.WellKeyed

/-! ## §3. Typed fields. -/

/-- The primitive types are told by their names. -/
theorem Primitive.isName_iff {n : String} :
    Primitive.isName n = true ↔ ∃ p : Primitive, n = p.name := by
  unfold Primitive.isName
  constructor
  · intro h
    obtain ⟨p, hp⟩ := Option.isSome_iff_exists.mp h
    have hname := List.find?_some hp
    rw [decide_eq_true_eq] at hname
    exact ⟨p, hname.symm⟩
  · intro hx
    obtain ⟨p, rfl⟩ := hx
    rw [Primitive.ofName?_name]
    rfl

/-- A field has a primitive type and no association, or an association to an
entity of the schema that agrees with it on whether there are many. -/
structure Schema.WellTyped (s : Schema) : Prop where
  plain : ∀ e ∈ s.toList, ∀ f ∈ e.fields.values,
    f.association = none ↔ ∃ p : Primitive, f.baseType = p.name
  target : ∀ e ∈ s.toList, ∀ f ∈ e.fields.values, ∀ kind,
    f.association = some kind → ∃ t ∈ s.toList, t.name = f.baseType
  many : ∀ e ∈ s.toList, ∀ f ∈ e.fields.values, ∀ kind,
    f.association = some kind → kind.isMany = f.isList

end SchemaTables
