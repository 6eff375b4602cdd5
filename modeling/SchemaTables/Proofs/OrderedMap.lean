/-
  SchemaTables.Proofs.OrderedMap
  ──────────────────────────────
  **WHAT AN ORDERED MAP HOLDS.**

  Keys are distinct, so looking a key up and going through the entries tell
  the same (`mem_entries_iff`, `entries_eq`).  What holds of every entry that
  is inserted holds of every entry of the map (`ofList_forall`), and every key
  that is inserted is there (`exists_get?_ofList`).
-/
import Mathlib.Data.List.Basic
import SchemaTables.OrderedMap

namespace SchemaTables

/-! ## §1. Entries. -/

theorem mem_of_lookupEntry {α : Type} {k : String} {v : α} :
    ∀ {es : List (String × α)}, lookupEntry k es = some v → (k, v) ∈ es
  | (k', v') :: rest, h => by
      unfold lookupEntry at h
      split at h
      · next hk =>
          cases h
          subst hk
          exact List.mem_cons_self
      · exact List.mem_cons_of_mem _ (mem_of_lookupEntry h)

theorem lookupEntry_of_mem {α : Type} {k : String} {v : α} :
    ∀ {es : List (String × α)}, (es.map Prod.fst).Nodup → (k, v) ∈ es →
      lookupEntry k es = some v
  | (k', v') :: rest, hd, h => by
      rw [List.map_cons, List.nodup_cons] at hd
      rcases List.mem_cons.mp h with heq | hrest
      · cases heq
        simp [lookupEntry]
      · have hne : ¬ k' = k := by
          intro hk
          have hmem : (k, v).1 ∈ rest.map Prod.fst :=
            List.mem_map_of_mem hrest
          exact hd.1 (hk ▸ hmem)
        rw [lookupEntry, if_neg hne]
        exact lookupEntry_of_mem hd.2 hrest

namespace OrderedMap

variable {α : Type}

/-! ## §2. Entries and lookups. -/

theorem mem_entries_iff {m : OrderedMap α} {k : String} {v : α} :
    (k, v) ∈ m.entries ↔ m.get? k = some v :=
  ⟨lookupEntry_of_mem m.distinct, mem_of_lookupEntry⟩

theorem mem_values_iff {m : OrderedMap α} {v : α} :
    v ∈ m.values ↔ ∃ k, m.get? k = some v := by
  unfold values
  rw [List.mem_map]
  constructor
  · intro hx
    obtain ⟨⟨k, w⟩, hmem, rfl⟩ := hx
    exact ⟨k, mem_entries_iff.mp hmem⟩
  · intro hx
    obtain ⟨k, h⟩ := hx
    exact ⟨(k, v), mem_entries_iff.mpr h, rfl⟩

theorem mem_keys_iff {m : OrderedMap α} {k : String} :
    k ∈ m.keys ↔ ∃ v, m.get? k = some v := by
  unfold keys
  rw [List.mem_map]
  constructor
  · intro hx
    obtain ⟨⟨k, v⟩, hmem, rfl⟩ := hx
    exact ⟨v, mem_entries_iff.mp hmem⟩
  · intro hx
    obtain ⟨v, h⟩ := hx
    exact ⟨(k, v), mem_entries_iff.mpr h, rfl⟩

@[simp] theorem get?_empty (k : String) :
    (empty : OrderedMap α).get? k = none := rfl

@[simp] theorem get?_insert_self (m : OrderedMap α) (k : String) (v : α) :
    (m.insert k v).get? k = some v := by
  rw [get?_insert, if_pos rfl]

theorem get?_insert_of_ne {m : OrderedMap α} {k k' : String} {v : α}
    (h : k ≠ k') : (m.insert k v).get? k' = m.get? k' := by
  rw [get?_insert, if_neg h]

theorem contains_eq_false_iff {m : OrderedMap α} {k : String} :
    m.contains k = false ↔ m.get? k = none := by
  unfold contains
  cases m.get? k <;> simp

/-- A new key goes to the end. -/
theorem entries_insert_of_fresh {m : OrderedMap α} {k : String} {v : α}
    (h : m.get? k = none) :
    (m.insert k v).entries = m.entries ++ [(k, v)] := by
  have key : ∀ es : List (String × α), lookupEntry k es = none →
      insertEntry k v es = es ++ [(k, v)] := by
    intro es
    induction es with
    | nil => intro _; rfl
    | cons e es ih =>
        obtain ⟨j, w⟩ := e
        intro hnone
        unfold lookupEntry at hnone
        split at hnone
        · cases hnone
        · next hj =>
            rw [insertEntry, if_neg hj, ih hnone]
            rfl
  exact key m.entries h

theorem values_insert_of_fresh {m : OrderedMap α} {k : String} {v : α}
    (h : m.get? k = none) : (m.insert k v).values = m.values ++ [v] := by
  unfold values
  rw [entries_insert_of_fresh h, List.map_append]
  rfl

/-- The entries are what the keys lead to, in order. -/
theorem entries_eq (m : OrderedMap α) :
    m.entries = m.keys.filterMap fun k => (m.get? k).map fun v => (k, v) := by
  have key : ∀ es : List (String × α), (∀ e ∈ es, m.get? e.1 = some e.2) →
      es = es.filterMap fun e => (m.get? e.1).map fun v => (e.1, v) := by
    intro es
    induction es with
    | nil => intro _; rfl
    | cons e es ih =>
        intro hall
        rw [List.filterMap_cons, hall e List.mem_cons_self]
        exact congrArg (e :: ·) (ih fun e' he' =>
          hall e' (List.mem_cons_of_mem _ he'))
  unfold keys
  rw [List.filterMap_map]
  exact key m.entries fun _ he => mem_entries_iff.mp he

/-- A map with one more key, somewhere among the others, has one more
entry. -/
theorem entries_of_keys {m m' : OrderedMap α} {before after : List String}
    {k : String} {v : α} (hkeys : m.keys = before ++ after)
    (hkeys' : m'.keys = before ++ k :: after) (hk : m'.get? k = some v)
    (hsame : ∀ j ∈ m.keys, m'.get? j = m.get? j) :
    ∃ es es', m.entries = es ++ es' ∧ m'.entries = es ++ (k, v) :: es' := by
  rw [hkeys] at hsame
  have hentries := m.entries_eq
  rw [hkeys, List.filterMap_append] at hentries
  refine ⟨_, _, hentries, ?_⟩
  rw [m'.entries_eq, hkeys', List.filterMap_append, List.filterMap_cons, hk]
  have hbefore : (before.filterMap fun j => (m'.get? j).map fun v => (j, v)) =
      before.filterMap fun j => (m.get? j).map fun v => (j, v) :=
    List.filterMap_congr fun j hj => by
      rw [hsame j (List.mem_append_left _ hj)]
  have hafter : (after.filterMap fun j => (m'.get? j).map fun v => (j, v)) =
      after.filterMap fun j => (m.get? j).map fun v => (j, v) :=
    List.filterMap_congr fun j hj => by
      rw [hsame j (List.mem_append_right _ hj)]
  rw [hbefore, hafter]
  rfl

/-! ## §3. Maps made from lists. -/

/-- What holds of all entries of a list holds of the map made from it. -/
theorem ofList_forall {P : String → α → Prop} {es : List (String × α)}
    (h : ∀ e ∈ es, P e.1 e.2) {k : String} {v : α}
    (hget : (ofList es).get? k = some v) : P k v := by
  -- for the induction, the insertions may start from any such map
  have key : ∀ (es : List (String × α)) (m : OrderedMap α),
      (∀ e ∈ es, P e.1 e.2) → (∀ k v, m.get? k = some v → P k v) →
      ∀ k v, (es.foldl (fun m e => m.insert e.1 e.2) m).get? k = some v →
        P k v := by
    intro es
    induction es with
    | nil => intro m _ hm; exact hm
    | cons e es ih =>
        intro m hes hm
        rw [List.foldl_cons]
        apply ih _ (fun e' he' => hes e' (List.mem_cons_of_mem _ he'))
        intro k v hk
        rw [get?_insert] at hk
        split at hk
        · next heq =>
            cases hk
            exact heq ▸ hes e List.mem_cons_self
        · exact hm k v hk
  exact key es empty h (fun k v hk => by simp at hk) k v hget

/-- The values of a map are values of the list that it is made from. -/
theorem mem_of_mem_values_ofList {es : List (String × α)} {v : α}
    (h : v ∈ (ofList es).values) : v ∈ es.map Prod.snd := by
  obtain ⟨k, hk⟩ := mem_values_iff.mp h
  exact ofList_forall (P := fun _ v => v ∈ es.map Prod.snd)
    (fun e he => List.mem_map_of_mem he) hk

/-- Every key of a list is one of the map made from it. -/
theorem exists_get?_ofList {es : List (String × α)} {k : String}
    (h : k ∈ es.map Prod.fst) : ∃ v, (ofList es).get? k = some v := by
  -- a key that is there stays, whatever is inserted after it
  have key : ∀ (es : List (String × α)) (m : OrderedMap α),
      (k ∈ es.map Prod.fst ∨ ∃ v, m.get? k = some v) →
      ∃ v, (es.foldl (fun m e => m.insert e.1 e.2) m).get? k = some v := by
    intro es
    induction es with
    | nil =>
        intro m hm
        rcases hm with hk | hm
        · cases hk
        · exact hm
    | cons e es ih =>
        intro m hm
        rw [List.foldl_cons]
        apply ih
        rw [List.map_cons, List.mem_cons] at hm
        rcases hm with (rfl | hk) | ⟨v, hv⟩
        · exact .inr ⟨e.2, get?_insert_self m e.1 e.2⟩
        · exact .inl hk
        · right
          rw [get?_insert]
          split
          · exact ⟨e.2, rfl⟩
          · exact ⟨v, hv⟩
  exact key es empty (.inl h)

end OrderedMap

end SchemaTables
