/-
  SchemaTables.Proofs.Storage.Layout
  ──────────────────────────────────
  **THE TABLES BEFORE ANY ASSOCIATION IS STORED.**

  The table of an entity has the columns of its fields, in order, after a
  numbered key if none of them is one (`entityTable_spec`).  Their names are
  distinct, none refers to anything, and one of them is the primary key: all
  columns that are keys come from fields of one name.  A layout holds just the
  tables of the entities, each under its own name (`layOut_spec`), and is a
  sound draft (`LaidOut.sound`).  Where the entities have distinct names, a
  table is the one of the entity that it stores (`LaidOut.owner`).
-/
import SchemaTables.Proofs.Schema
import SchemaTables.Proofs.Steps
import SchemaTables.Proofs.Storage.Soundness
import SchemaTables.Storage.Layout

namespace SchemaTables.Storage

/-! ## §1. The columns of the fields. -/

theorem fieldColumn_eq_ok {e : Entity} {f : Field} {c : Column}
    (h : fieldColumn e f = .ok c) : ∃ p, c = columnOf f p := by
  unfold fieldColumn at h
  split at h
  · cases h
  · next p _ =>
      split at h
      · cases h
      · cases h
        exact ⟨p, rfl⟩

/-- The table `t` has the columns of the fields `fs` of `e`, in order. -/
structure FieldColumns (e : Entity) (fs : List Field) (t : Table) :
    Prop where
  name : t.name = tableName e
  entity : t.entity = some e.name
  distinct : (t.columns.map Column.name).Nodup
  columns : List.Forall₂ (fun f c => fieldColumn e f = .ok c) fs t.columns

namespace FieldColumns

variable {e : Entity} {fs : List Field} {t t' : Table} {f : Field}

/-- Every column is the one of a field. -/
theorem exists_field (h : FieldColumns e fs t) {c : Column}
    (hc : c ∈ t.columns) : ∃ f ∈ fs, ∃ p, c = columnOf f p := by
  obtain ⟨f, hf, hcol⟩ := exists_left_of_forall₂ h.columns c hc
  exact ⟨f, hf, fieldColumn_eq_ok hcol⟩

theorem references (h : FieldColumns e fs t) :
    ∀ c ∈ t.columns, c.references = none := by
  intro c hc
  obtain ⟨f, -, p, rfl⟩ := h.exists_field hc
  rfl

/-- Columns that are keys have the name of the key. -/
theorem keyName (h : FieldColumns e fs t) :
    ∀ c ∈ t.columns, c.isPrimaryKey = true →
      c.name = columnName keyField := by
  intro c hc hkey
  obtain ⟨f, -, p, rfl⟩ := h.exists_field hc
  have hname : f.name = keyField := of_decide_eq_true hkey
  show columnName f.name = columnName keyField
  rw [hname]

/-- Without references nothing is merged: a new column goes to the end. -/
theorem addField (h : FieldColumns e fs t)
    (hadd : addField e t f = .ok t') : FieldColumns e (fs ++ [f]) t' := by
  unfold Storage.addField at hadd
  rw [bind_eq_ok] at hadd
  obtain ⟨new, hnew, hadd⟩ := hadd
  rw [addColumn_eq_ok] at hadd
  obtain ⟨cols, hcols, rfl⟩ := hadd
  refine ⟨h.name, h.entity, nodup_addTo hcols h.distinct, ?_⟩
  rcases addTo_cases hcols with
    ⟨-, rfl⟩ | ⟨before, old, after, heq, -, -, hsame, -⟩
  · exact List.rel_append h.columns (.cons hnew .nil)
  · have hold : old ∈ t.columns := by rw [heq]; simp
    have hsome := (Column.references_of_sameReference hsame).1
    rw [h.references old hold] at hsome
    cases hsome

/-- Columns of one name are one column, so there is at most one key. -/
theorem primaryKey (h : FieldColumns e fs t) :
    t.primaryKey = [] ∨ ∃ c, t.primaryKey = [c] := by
  have hsub : (t.primaryKey.map Column.name).Nodup :=
    h.distinct.sublist (List.filter_sublist.map _)
  have hname : ∀ c ∈ t.primaryKey, c.name = columnName keyField := by
    intro c hc
    rw [Table.primaryKey, List.mem_filter] at hc
    exact h.keyName c hc.1 hc.2
  match hkeys : t.primaryKey with
  | [] => exact .inl rfl
  | [c] => exact .inr ⟨c, rfl⟩
  | c :: c' :: rest =>
      rw [hkeys] at hsub hname
      have heq : c.name = c'.name := by
        rw [hname c (by simp), hname c' (by simp)]
      simp [heq] at hsub

end FieldColumns

/-! ## §2. The table of an entity. -/

/-- The table `t` is one that is laid out for the entity `e`. -/
structure IsEntityTable (e : Entity) (t : Table) : Prop where
  name : t.name = tableName e
  entity : t.entity = some e.name
  distinct : (t.columns.map Column.name).Nodup
  key : ∃ c, t.primaryKey = [c]
  columns : ∃ u, FieldColumns e e.primitiveFields u ∧
    t.columns =
      if u.primaryKey.isEmpty then numberedKey :: u.columns else u.columns

namespace IsEntityTable

variable {e : Entity} {t : Table}

theorem isJoinTable (h : IsEntityTable e t) : t.isJoinTable = false :=
  Table.not_isJoinTable h.entity

theorem references (h : IsEntityTable e t) :
    ∀ c ∈ t.columns, c.references = none := by
  intro c hc
  obtain ⟨u, hu, hcolumns⟩ := h.columns
  rw [hcolumns] at hc
  split at hc
  · rcases List.mem_cons.mp hc with rfl | hc
    · rfl
    · exact hu.references c hc
  · exact hu.references c hc

/-- Every field without an association has a column. -/
theorem column (h : IsEntityTable e t) {f : Field}
    (hf : f ∈ e.primitiveFields) :
    ∃ c ∈ t.columns, c.name = columnName f.name := by
  obtain ⟨u, hu, hcolumns⟩ := h.columns
  obtain ⟨c, hc, hcol⟩ := exists_right_of_forall₂ hu.columns f hf
  obtain ⟨p, rfl⟩ := fieldColumn_eq_ok hcol
  refine ⟨columnOf f p, ?_, rfl⟩
  rw [hcolumns]
  split
  · exact List.mem_cons_of_mem _ hc
  · exact hc

/-- Every other column than the numbered key is the one of a field. -/
theorem field_of_column (h : IsEntityTable e t) {c : Column}
    (hc : c ∈ t.columns) (hname : c.name ≠ keyField) :
    ∃ f ∈ e.primitiveFields, columnName f.name = c.name := by
  obtain ⟨u, hu, hcolumns⟩ := h.columns
  have hmem : c ∈ u.columns := by
    rw [hcolumns] at hc
    split at hc
    · rcases List.mem_cons.mp hc with rfl | hc
      · exact absurd rfl hname
      · exact hc
    · exact hc
  obtain ⟨f, hf, p, rfl⟩ := hu.exists_field hmem
  exact ⟨f, hf, rfl⟩

end IsEntityTable

theorem FieldColumns.withKey {e : Entity} {t t' : Table}
    (h : FieldColumns e e.primitiveFields t) (hkey : withKey t = .ok t') :
    IsEntityTable e t' := by
  unfold Storage.withKey at hkey
  split at hkey
  · next hempty =>
      split at hkey
      · cases hkey
      · next hfree =>
          cases hkey
          -- the numbered key is only added where its name is free
          have hfresh : keyField ∉ t.columns.map Column.name := by
            intro hmem
            rw [List.mem_map] at hmem
            obtain ⟨c, hc, hname⟩ := hmem
            apply hfree
            unfold Table.column?
            rw [List.find?_isSome]
            exact ⟨c, hc, by simpa using hname⟩
          refine ⟨h.name, h.entity, ?_, ⟨numberedKey, ?_⟩, t, h, ?_⟩
          · show (keyField :: t.columns.map Column.name).Nodup
            exact List.nodup_cons.mpr ⟨hfresh, h.distinct⟩
          · show numberedKey :: t.primaryKey = [numberedKey]
            rw [List.isEmpty_iff.mp hempty]
          · rw [if_pos hempty]
  · next hkeys =>
      cases hkey
      refine ⟨h.name, h.entity, h.distinct, ?_, t, h, ?_⟩
      · rcases h.primaryKey with hnone | hone
        · rw [hnone] at hkeys
          exact absurd rfl hkeys
        · exact hone
      · rw [if_neg hkeys]

theorem entityTable_spec {e : Entity} {t : Table}
    (h : entityTable e = .ok t) : IsEntityTable e t := by
  unfold entityTable at h
  rw [bind_eq_ok] at h
  obtain ⟨t₁, hfields, hkey⟩ := h
  have hcolumns : FieldColumns e e.primitiveFields t₁ := by
    apply foldlM_invariant (FieldColumns e) _ _ hfields
    · exact ⟨rfl, rfl, List.nodup_nil, .nil⟩
    · intro done f t t' _ hinv hstep
      exact hinv.addField hstep
  exact hcolumns.withKey hkey

/-! ## §3. The layout. -/

/-- The draft `d` holds the tables of the entities `done`. -/
structure LaidOut (done : List Entity) (d : Draft) : Prop where
  table : ∀ k t, d.tables.get? k = some t →
    t.name = k ∧ ∃ e ∈ done, IsEntityTable e t
  entity : ∀ n k, d.entityTables.get? n = some k →
    ∃ t, d.tables.get? k = some t ∧ t.entity = some n
  covers : ∀ e ∈ done, ∃ k, d.entityTables.get? e.name = some k
  owner : (done.map Entity.name).Nodup →
    ∀ k t n, d.tables.get? k = some t → t.entity = some n →
      d.entityTables.get? n = some k

theorem addEntityTable_eq_ok {d d' : Draft} {e : String} {t : Table}
    (h : d.addEntityTable e t = .ok d') :
    d.tables.get? t.name = none ∧
      d' = { tables := d.tables.insert t.name t
             entityTables := d.entityTables.insert e t.name } := by
  unfold Draft.addEntityTable at h
  split at h
  · cases h
  · next hfree =>
      cases h
      rw [Bool.not_eq_true, OrderedMap.contains_eq_false_iff] at hfree
      exact ⟨hfree, rfl⟩

theorem LaidOut.layEntity {done : List Entity} {d d' : Draft} {e : Entity}
    (h : LaidOut done d) (hlay : layEntity d e = .ok d') :
    LaidOut (done ++ [e]) d' := by
  unfold Storage.layEntity at hlay
  rw [bind_eq_ok] at hlay
  obtain ⟨t, ht, hlay⟩ := hlay
  obtain ⟨hfree, rfl⟩ := addEntityTable_eq_ok hlay
  have htable := entityTable_spec ht
  have hold : ∀ k u, (d.tables.insert t.name t).get? k = some u →
      (k = t.name ∧ u = t) ∨ (k ≠ t.name ∧ d.tables.get? k = some u) := by
    intro k u hu
    rw [OrderedMap.get?_insert] at hu
    split at hu
    · next hk =>
        cases hu
        exact .inl ⟨hk.symm, rfl⟩
    · next hk => exact .inr ⟨fun e => hk e.symm, hu⟩
  refine ⟨?_, ?_, ?_, ?_⟩
  · -- every table is laid out for some entity
    intro k u hu
    rcases hold k u hu with ⟨rfl, rfl⟩ | ⟨-, hu⟩
    · exact ⟨rfl, e, by simp, htable⟩
    · obtain ⟨hname, e', he', hentity⟩ := h.table k u hu
      exact ⟨hname, e', List.mem_append_left _ he', hentity⟩
  · -- every entity that has a table finds it
    intro n k hk
    rw [OrderedMap.get?_insert] at hk
    split at hk
    · next hn =>
        cases hk
        exact ⟨t, OrderedMap.get?_insert_self _ _ _, hn ▸ htable.entity⟩
    · obtain ⟨u, hu, hentity⟩ := h.entity n k hk
      have hne : t.name ≠ k := by
        intro heq
        subst heq
        rw [hfree] at hu
        cases hu
      exact ⟨u, by rw [OrderedMap.get?_insert_of_ne hne]; exact hu, hentity⟩
  · -- every entity has a table
    intro e' he'
    by_cases hname : e.name = e'.name
    · exact ⟨t.name, by rw [hname]; exact OrderedMap.get?_insert_self _ _ _⟩
    · have hmem : e' ∈ done := by
        rcases List.mem_append.mp he' with hmem | hmem
        · exact hmem
        · rw [List.mem_singleton] at hmem
          exact absurd (hmem ▸ rfl) hname
      obtain ⟨k, hk⟩ := h.covers e' hmem
      exact ⟨k, by rw [OrderedMap.get?_insert_of_ne hname]; exact hk⟩
  · -- a table is the one of the entity that it stores
    intro hd k u n hu hn
    rw [List.map_append, List.nodup_append] at hd
    obtain ⟨hd, -, hnew⟩ := hd
    rcases hold k u hu with ⟨rfl, rfl⟩ | ⟨-, hu⟩
    · rw [htable.entity] at hn
      cases hn
      exact OrderedMap.get?_insert_self _ _ _
    · -- the new entity has a name of its own, so this is not its table
      obtain ⟨-, e', he', hentity⟩ := h.table k u hu
      have hname : e'.name = n := by
        rw [hentity.entity] at hn
        exact Option.some.inj hn
      have hne : e.name ≠ n := by
        intro heq
        subst heq
        exact hnew e'.name (List.mem_map_of_mem he') e.name (by simp) hname
      rw [OrderedMap.get?_insert_of_ne hne]
      exact h.owner hd k u n hu hn

theorem layOut_spec {s : Schema} {d : Draft} (h : layOut s = .ok d) :
    LaidOut s.toList d := by
  apply foldlM_invariant LaidOut _ _ h
  · exact ⟨by simp [Draft.empty], by simp [Draft.empty], by simp,
      by simp [Draft.empty]⟩
  · intro done e d d' _ hinv hstep
    exact hinv.layEntity hstep

namespace LaidOut

variable {es : List Entity} {d : Draft}

/-- A layout is a sound draft. -/
theorem sound (h : LaidOut es d) : d.Sound := by
  refine ⟨fun k t ht => (h.table k t ht).1, ?_, h.entity⟩
  intro k t ht
  obtain ⟨-, e, -, hentity⟩ := h.table k t ht
  refine ⟨hentity.distinct, ?_, fun _ => hentity.key⟩
  intro c hc href
  rw [hentity.references c hc, hentity.isJoinTable] at href
  rcases href with href | href <;> cases href

/-- The table of an entity is named after it. -/
theorem entity_of_table (h : LaidOut es d) {n k : String}
    (hk : d.entityTables.get? n = some k) :
    ∃ e ∈ es, e.name = n ∧ tableName e = k := by
  obtain ⟨t, ht, hn⟩ := h.entity n k hk
  obtain ⟨hname, e, he, hentity⟩ := h.table k t ht
  rw [hentity.entity] at hn
  exact ⟨e, he, Option.some.inj hn, by rw [← hentity.name, hname]⟩

/-- Where entities stand under their own names, those of the schema are the
ones that have a table. -/
theorem entityTable_iff {s : Schema} (h : LaidOut s.toList d)
    (hkeyed : s.EntitiesKeyed) {n k : String} :
    d.entityTables.get? n = some k ↔
      ∃ e, s.get? n = some e ∧ tableName e = k := by
  have htable : ∀ {n k : String}, d.entityTables.get? n = some k →
      ∃ e, s.get? n = some e ∧ tableName e = k := by
    intro n k hk
    obtain ⟨e, he, rfl, hname⟩ := h.entity_of_table hk
    exact ⟨e, hkeyed.get?_name he, hname⟩
  constructor
  · exact htable
  · intro hx
    obtain ⟨e, he, rfl⟩ := hx
    obtain ⟨k, hk⟩ := h.covers e (Schema.mem_toList he)
    rw [hkeyed n e he] at hk
    obtain ⟨e', he', rfl⟩ := htable hk
    rw [he] at he'
    cases he'
    exact hk

end LaidOut

end SchemaTables.Storage
