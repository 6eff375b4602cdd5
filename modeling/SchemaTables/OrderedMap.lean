/-
  SchemaTables.OrderedMap
  ───────────────────────
  **MAPS THAT REMEMBER THE ORDER OF INSERTION.**

  Entities, fields and tables are looked up by name and listed in the order
  in which they were first added.  An `OrderedMap` is a list of entries whose
  keys are pairwise distinct; the distinctness is part of the type, so every
  operation below has to keep it.

  Inserting under a key that is already present replaces the value and leaves
  the key where it stands; a new key goes to the end:

      (insert m k v).keys = if k ∈ m.keys then m.keys else m.keys ++ [k]
      (insert m k v).get? k' = if k = k' then some v else m.get? k'
-/

namespace SchemaTables

universe u v

/-! ## §1. Entries. -/

/-- The value of the first entry under `k`. -/
def lookupEntry {α : Type u} (k : String) : List (String × α) → Option α
  | [] => none
  | (k', v) :: rest => if k' = k then some v else lookupEntry k rest

/-- Replace the value under `k`, or add an entry at the end. -/
def insertEntry {α : Type u} (k : String) (v : α) :
    List (String × α) → List (String × α)
  | [] => [(k, v)]
  | (k', v') :: rest =>
      if k' = k then (k, v) :: rest else (k', v') :: insertEntry k v rest

theorem keys_insertEntry {α : Type u} (k : String) (v : α)
    (es : List (String × α)) :
    (insertEntry k v es).map Prod.fst =
      if k ∈ es.map Prod.fst then es.map Prod.fst
      else es.map Prod.fst ++ [k] := by
  induction es with
  | nil => simp [insertEntry]
  | cons e rest ih =>
      obtain ⟨k', v'⟩ := e
      by_cases h : k' = k
      · subst h
        simp [insertEntry]
      · have h' : ¬ k = k' := fun e => h e.symm
        by_cases hk : k ∈ rest.map Prod.fst <;>
          simp_all [insertEntry]

theorem nodup_insertEntry {α : Type u} (k : String) (v : α)
    {es : List (String × α)} (h : (es.map Prod.fst).Nodup) :
    ((insertEntry k v es).map Prod.fst).Nodup := by
  rw [keys_insertEntry]
  split
  · exact h
  · next hk =>
      rw [List.nodup_append]
      refine ⟨h, by simp, ?_⟩
      intro a ha b hb
      simp only [List.mem_singleton] at hb
      subst hb
      intro hab
      exact hk (hab ▸ ha)

theorem lookupEntry_insertEntry {α : Type u} (k k' : String) (v : α)
    (es : List (String × α)) :
    lookupEntry k' (insertEntry k v es) =
      if k = k' then some v else lookupEntry k' es := by
  induction es with
  | nil => simp [insertEntry, lookupEntry]
  | cons e rest ih =>
      obtain ⟨j, w⟩ := e
      simp only [insertEntry]
      split
      · next h =>
          subst h
          by_cases hk : j = k' <;> simp [lookupEntry, hk]
      · next h =>
          simp only [lookupEntry, ih]
          by_cases hj : j = k'
          · have hk : ¬ k = k' := fun e => h (hj.trans e.symm)
            simp [hj, hk]
          · simp [hj]

/-! ## §2. The map. -/

/-- A map from names, listed in the order of first insertion. -/
structure OrderedMap (α : Type u) where
  entries : List (String × α)
  distinct : (entries.map Prod.fst).Nodup

namespace OrderedMap

variable {α : Type u} {β : Type v}

/-- The map without entries. -/
def empty : OrderedMap α := ⟨[], List.nodup_nil⟩

instance : Inhabited (OrderedMap α) := ⟨empty⟩

/-- Two maps are equal when their entries are. -/
theorem ext_entries {m n : OrderedMap α} (h : m.entries = n.entries) :
    m = n := by
  cases m
  cases n
  cases h
  rfl

instance [DecidableEq α] : DecidableEq (OrderedMap α) := fun m n =>
  decidable_of_iff (m.entries = n.entries)
    ⟨ext_entries, fun h => h ▸ rfl⟩

/-- Keys in order. -/
def keys (m : OrderedMap α) : List String := m.entries.map Prod.fst

/-- Values in the order of their keys. -/
def values (m : OrderedMap α) : List α := m.entries.map Prod.snd

/-- Number of entries. -/
def size (m : OrderedMap α) : Nat := m.entries.length

/-- The value under `k`. -/
def get? (m : OrderedMap α) (k : String) : Option α := lookupEntry k m.entries

/-- Is there an entry under `k`? -/
def contains (m : OrderedMap α) (k : String) : Bool := (m.get? k).isSome

/-- Replace the value under `k`, or add an entry at the end. -/
def insert (m : OrderedMap α) (k : String) (v : α) : OrderedMap α :=
  ⟨insertEntry k v m.entries, nodup_insertEntry k v m.distinct⟩

/-- Insert the entries one after another: of two entries under one key the
first gives the place and the last the value. -/
def ofList (es : List (String × α)) : OrderedMap α :=
  es.foldl (fun m e => m.insert e.1 e.2) empty

theorem keys_nodup (m : OrderedMap α) : m.keys.Nodup := m.distinct

theorem keys_insert (m : OrderedMap α) (k : String) (v : α) :
    (m.insert k v).keys = if k ∈ m.keys then m.keys else m.keys ++ [k] :=
  keys_insertEntry k v m.entries

theorem get?_insert (m : OrderedMap α) (k k' : String) (v : α) :
    (m.insert k v).get? k' = if k = k' then some v else m.get? k' :=
  lookupEntry_insertEntry k k' v m.entries

end OrderedMap

end SchemaTables
