/-
  SchemaTables.Proofs.Storage.Growth
  ──────────────────────────────────
  **TABLES ONLY GROW.**

  Adding a column to a table either puts it at the end or merges it with a
  foreign key of its name (`addTo_cases`).  Merging changes no more than
  whether null is allowed, so that the list of the columns' shapes is only
  ever extended:

      cols'.map shape = cols.map shape ++ added

  A table that has grown by foreign keys still has every column that it had
  (`Grows.column`) and the same primary key (`Grows.primaryKey`).  Whatever
  refers to a column or to a key goes on doing so while tables grow.
-/
import SchemaTables.Proofs.OrderedMap
import SchemaTables.Storage.Draft

namespace SchemaTables.Storage

/-! ## §1. What merging leaves alone. -/

/-- A column but for whether it allows null. -/
def Column.shape (c : Column) : Column := { c with isNullable := true }

/-- The old column after a new one was merged into it. -/
def Column.merged (old new : Column) : Column :=
  { old with isNullable := old.isNullable && new.isNullable }

@[simp] theorem Column.shape_name (c : Column) : c.shape.name = c.name := rfl

@[simp] theorem Column.shape_isPrimaryKey (c : Column) :
    c.shape.isPrimaryKey = c.isPrimaryKey := rfl

@[simp] theorem Column.shape_references (c : Column) :
    c.shape.references = c.references := rfl

@[simp] theorem Column.shape_merged (old new : Column) :
    (old.merged new).shape = old.shape := rfl

/-- Columns of one shape differ in no more than their nullability. -/
theorem Column.eq_of_shape {c c' : Column} (h : c'.shape = c.shape) :
    c'.name = c.name ∧ c'.type = c.type ∧
      c'.isPrimaryKey = c.isPrimaryKey ∧ c'.references = c.references := by
  simp only [Column.shape, Column.mk.injEq] at h
  exact ⟨h.1, h.2.1, h.2.2.1, h.2.2.2.2.2⟩

theorem map_name_eq (cols : List Column) :
    cols.map Column.name = (cols.map Column.shape).map Column.name := by
  rw [List.map_map]
  rfl

/-- The same reference means that the old column refers to what the new one
refers to. -/
theorem Column.references_of_sameReference {old new : Column}
    (h : old.sameReference new = true) :
    old.references.isSome = true ∧ old.references = new.references := by
  unfold Column.sameReference at h
  rw [Bool.and_eq_true, decide_eq_true_eq] at h
  exact h

/-- The column that is found has the name, and is one of the table. -/
theorem Table.of_column? {t : Table} {n : String} {c : Column}
    (h : t.column? n = some c) : c ∈ t.columns ∧ c.name = n := by
  unfold Table.column? at h
  have hname := List.find?_some h
  rw [decide_eq_true_eq] at hname
  exact ⟨List.mem_of_find?_eq_some h, hname⟩

theorem Table.exists_column? {t : Table} {c : Column} (hc : c ∈ t.columns) :
    ∃ c', t.column? c.name = some c' := by
  rw [← Option.isSome_iff_exists]
  unfold Table.column?
  rw [List.find?_isSome]
  exact ⟨c, hc, decide_eq_true rfl⟩

/-! ## §2. Adding a column. -/

/-- All that adding a column can do. -/
theorem addTo_cases {new : Column} :
    ∀ {cols cols' : List Column}, addTo new cols = some cols' →
      (new.name ∉ cols.map Column.name ∧ cols' = cols ++ [new]) ∨
      ∃ before old after, cols = before ++ old :: after ∧
        new.name ∉ before.map Column.name ∧ old.name = new.name ∧
        old.sameReference new = true ∧
        cols' = before ++ old.merged new :: after
  | [], cols', h => by
      cases h
      exact .inl ⟨by simp, rfl⟩
  | old :: rest, cols', h => by
      unfold addTo at h
      split at h
      · next hname =>
          split at h
          · next hsame =>
              cases h
              exact .inr ⟨[], old, rest, rfl, by simp, hname, hsame, rfl⟩
          · cases h
      · next hname =>
          rw [Option.map_eq_some_iff] at h
          obtain ⟨rest', hrest, rfl⟩ := h
          have hne : new.name ≠ old.name := fun e => hname e.symm
          -- a column of another name is passed over, in both cases
          rcases addTo_cases hrest with
            ⟨hfresh, rfl⟩ | ⟨before, old', after, rfl, hb, hn, hs, rfl⟩
          · left
            exact ⟨by simp [hne] at hfresh ⊢; exact hfresh, rfl⟩
          · right
            refine ⟨old :: before, old', after, rfl, ?_, hn, hs, rfl⟩
            rw [List.map_cons, List.mem_cons, not_or]
            exact ⟨hne, hb⟩

/-- Adding fails where the first column of the name is another one. -/
theorem addTo_eq_none_iff {new : Column} :
    ∀ {cols : List Column}, addTo new cols = none ↔
      ∃ old, cols.find? (fun c => c.name = new.name) = some old ∧
        old.sameReference new = false
  | [] => by simp [addTo]
  | c :: rest => by
      rw [List.find?_cons]
      unfold addTo
      by_cases hname : c.name = new.name
      · rw [if_pos hname]
        by_cases hsame : c.sameReference new = true
        · simp [hname, hsame]
        · simp [hname, hsame]
      · rw [if_neg hname, Option.map_eq_none_iff, addTo_eq_none_iff]
        simp [hname]

/-- The shapes are extended by the new one, or stay. -/
theorem shapes_addTo {new : Column} {cols cols' : List Column}
    (h : addTo new cols = some cols') :
    cols'.map Column.shape = cols.map Column.shape ++
      (if new.name ∈ cols.map Column.name then [] else [new.shape]) := by
  rcases addTo_cases h with
    ⟨hfresh, rfl⟩ | ⟨before, old, after, rfl, -, hname, -, rfl⟩
  · rw [if_neg hfresh]
    simp
  · -- the merged column has the shape of the old one
    have hmem : new.name ∈ (before ++ old :: after).map Column.name := by
      simp [hname]
    rw [if_pos hmem]
    simp

theorem nodup_addTo {new : Column} {cols cols' : List Column}
    (h : addTo new cols = some cols')
    (hd : (cols.map Column.name).Nodup) :
    (cols'.map Column.name).Nodup := by
  -- names are part of the shapes, and those are extended at most by one
  rw [map_name_eq, shapes_addTo h, List.map_append, ← map_name_eq]
  split
  · simpa using hd
  · next hfresh =>
      rw [List.nodup_append]
      refine ⟨hd, by simp, ?_⟩
      intro a ha b hb
      simp only [List.map_cons, List.map_nil, List.mem_singleton] at hb
      subst hb
      intro hab
      exact hfresh (hab ▸ ha)

/-- A column that is there after adding is an old one, the new one, or the
two merged. -/
theorem mem_addTo {new c : Column} {cols cols' : List Column}
    (h : addTo new cols = some cols') (hc : c ∈ cols') :
    c ∈ cols ∨ c = new ∨
      ∃ old ∈ cols, old.name = new.name ∧ old.sameReference new = true ∧
        c = old.merged new := by
  rcases addTo_cases h with
    ⟨-, rfl⟩ | ⟨before, old, after, rfl, -, hname, hsame, rfl⟩
  · rw [List.mem_append, List.mem_singleton] at hc
    exact hc.imp_right .inl
  · rw [List.mem_append, List.mem_cons] at hc
    rcases hc with hb | rfl | ha
    · exact .inl (List.mem_append_left _ hb)
    · exact .inr (.inr ⟨old, by simp, hname, hsame, rfl⟩)
    · exact .inl (List.mem_append_right _ (List.mem_cons_of_mem _ ha))

theorem addColumn_eq_ok {t t' : Table} {new : Column} :
    t.addColumn new = .ok t' ↔
      ∃ cols, addTo new t.columns = some cols ∧
        t' = { t with columns := cols } := by
  unfold Table.addColumn
  cases addTo new t.columns with
  | none => simp
  | some cols => simp [eq_comm]

/-- A column is refused where its name is taken by one that refers to
something else, or to nothing. -/
theorem addColumn_eq_error {t : Table} {new : Column} {key : ColumnRef}
    {x : StorageError} (href : new.references = some key) :
    t.addColumn new = .error x ↔
      x = .columnConflict t.name new.name ∧
        ∃ old, t.column? new.name = some old ∧ old.references ≠ some key := by
  have hsame : ∀ old : Column, old.sameReference new = false ↔
      old.references ≠ some key := by
    intro old
    unfold Column.sameReference
    rw [href]
    cases old.references <;> simp
  have hnone : addTo new t.columns = none ↔
      ∃ old, t.column? new.name = some old ∧ old.references ≠ some key := by
    simp only [addTo_eq_none_iff, hsame]
    rfl
  rw [← hnone]
  unfold Table.addColumn
  cases addTo new t.columns with
  | none => simp [eq_comm]
  | some cols => simp

theorem name_addColumn {t t' : Table} {new : Column}
    (h : t.addColumn new = .ok t') : t'.name = t.name := by
  rw [addColumn_eq_ok] at h
  obtain ⟨cols, -, rfl⟩ := h
  rfl

/-- Columns of other names are passed over. -/
theorem find?_append_of_fresh {n : String} {before after : List Column}
    (hfresh : n ∉ before.map Column.name) :
    (before ++ after).find? (fun c => c.name = n)
      = after.find? (fun c => c.name = n) := by
  have hnone : before.find? (fun c => c.name = n) = none := by
    rw [List.find?_eq_none]
    intro c hc hname
    have hmem : c.name ∈ before.map Column.name := List.mem_map_of_mem hc
    rw [decide_eq_true_eq] at hname
    exact hfresh (hname ▸ hmem)
  rw [List.find?_append, hnone, Option.none_or]

/-- The column that was added can be found, with its reference. -/
theorem column?_addColumn {t t' : Table} {new : Column}
    (hadd : t.addColumn new = .ok t') :
    ∃ c, t'.column? new.name = some c ∧ c.references = new.references := by
  rw [addColumn_eq_ok] at hadd
  obtain ⟨cols, hcols, rfl⟩ := hadd
  show ∃ c, cols.find? (fun c => c.name = new.name) = some c ∧ _
  rcases addTo_cases hcols with
    ⟨hfresh, rfl⟩ | ⟨before, old, after, -, hfresh, hname, hsame, rfl⟩
  · refine ⟨new, ?_, rfl⟩
    rw [find?_append_of_fresh hfresh]
    simp
  · refine ⟨old.merged new, ?_, ?_⟩
    · rw [find?_append_of_fresh hfresh]
      simp [Column.merged, hname]
    · exact (Column.references_of_sameReference hsame).2

/-! ## §3. Growing by foreign keys. -/

theorem Table.isJoinTable_iff {t : Table} :
    t.isJoinTable = true ↔ t.entity = none :=
  Option.isNone_iff_eq_none

theorem Table.not_isJoinTable_iff {t : Table} :
    t.isJoinTable = false ↔ t.entity.isSome = true := by
  unfold Table.isJoinTable
  cases t.entity <;> simp

theorem Table.not_isJoinTable {t : Table} {entity : String}
    (h : t.entity = some entity) : t.isJoinTable = false := by
  rw [Table.not_isJoinTable_iff, h]
  rfl

/-- The table `t'` is `t` with foreign keys added, which belong to the primary
key if and only if it is a join table. -/
structure Table.Grows (t t' : Table) : Prop where
  name : t'.name = t.name
  entity : t'.entity = t.entity
  columns : ∃ added,
    t'.columns.map Column.shape = t.columns.map Column.shape ++ added ∧
      ∀ c ∈ added, c.references.isSome = true ∧
        c.isPrimaryKey = t.isJoinTable

namespace Table.Grows

variable {t t' t'' : Table}

theorem refl (t : Table) : t.Grows t :=
  ⟨rfl, rfl, [], by simp, by simp⟩

theorem isJoinTable (h : t.Grows t') : t'.isJoinTable = t.isJoinTable := by
  unfold Table.isJoinTable
  rw [h.entity]

theorem trans (h : t.Grows t') (h' : t'.Grows t'') : t.Grows t'' := by
  obtain ⟨added, heq, hadded⟩ := h.columns
  obtain ⟨added', heq', hadded'⟩ := h'.columns
  refine ⟨h'.name.trans h.name, h'.entity.trans h.entity, added ++ added',
    ?_, ?_⟩
  · rw [heq', heq, List.append_assoc]
  · intro c hc
    rcases List.mem_append.mp hc with hc | hc
    · exact hadded c hc
    · -- the second table is a join table just when the first one is
      have := hadded' c hc
      rwa [h.isJoinTable] at this

theorem of_addColumn {new : Column} (hadd : t.addColumn new = .ok t')
    (hrefers : new.references.isSome = true)
    (hprimary : new.isPrimaryKey = t.isJoinTable) : t.Grows t' := by
  rw [addColumn_eq_ok] at hadd
  obtain ⟨cols, hcols, rfl⟩ := hadd
  refine ⟨rfl, rfl, _, shapes_addTo hcols, ?_⟩
  intro c hc
  split at hc
  · cases hc
  · rw [List.mem_singleton] at hc
    subst hc
    exact ⟨hrefers, hprimary⟩

/-- A column that is there stays. -/
theorem column (h : t.Grows t') {n : String} {c : Column}
    (hc : t.column? n = some c) :
    ∃ c', t'.column? n = some c' ∧ c'.shape = c.shape := by
  -- a column is found by its name, which the shape tells as well
  have shapes : ∀ u : Table, (u.columns.map Column.shape).find?
      (fun c => c.name = n) = (u.column? n).map Column.shape := by
    intro u
    rw [List.find?_map]
    rfl
  obtain ⟨added, heq, -⟩ := h.columns
  have hfind : (t'.column? n).map Column.shape = some c.shape := by
    rw [← shapes, heq, List.find?_append, shapes, hc]
    rfl
  exact Option.map_eq_some_iff.mp hfind

/-- A column without a reference was there before. -/
theorem plain (h : t.Grows t') {c : Column} (hc : c ∈ t'.columns)
    (hnone : c.references = none) :
    ∃ c₀ ∈ t.columns, c₀.shape = c.shape := by
  obtain ⟨added, heq, hadded⟩ := h.columns
  have hmem : c.shape ∈ t'.columns.map Column.shape :=
    List.mem_map_of_mem hc
  rw [heq, List.mem_append] at hmem
  rcases hmem with hold | hnew
  · exact List.mem_map.mp hold
  · have hsome := (hadded c.shape hnew).1
    rw [Column.shape_references, hnone] at hsome
    cases hsome

/-- The primary key of a table that stores an entity stays. -/
theorem primaryKey (h : t.Grows t') (hentity : t.isJoinTable = false)
    {key : Column} (hkey : t.primaryKey = [key]) :
    ∃ key', t'.primaryKey = [key'] ∧ key'.shape = key.shape := by
  have shapes : ∀ u : Table, (u.columns.map Column.shape).filter
      (fun c => c.isPrimaryKey) = u.primaryKey.map Column.shape := by
    intro u
    rw [List.filter_map]
    rfl
  obtain ⟨added, heq, hadded⟩ := h.columns
  -- outside join tables, no added column belongs to the key
  have hnone : added.filter (fun c => c.isPrimaryKey) = [] := by
    rw [List.filter_eq_nil_iff]
    intro c hc
    rw [(hadded c hc).2, hentity]
    simp
  have hmap : t'.primaryKey.map Column.shape = [key.shape] := by
    rw [← shapes, heq, List.filter_append, hnone, shapes, hkey]
    rfl
  exact List.map_eq_singleton_iff.mp hmap

end Table.Grows

/-! ## §4. All tables. -/

/-- Every table is still there and has grown. -/
def TablesGrow (ts ts' : OrderedMap Table) : Prop :=
  ∀ k t, ts.get? k = some t → ∃ t', ts'.get? k = some t' ∧ t.Grows t'

/-- The column `key` is the primary key, of type `type`, of a table that
stores an entity. -/
def KeyIn (ts : OrderedMap Table) (key : ColumnRef) (type : ColumnType) :
    Prop :=
  ∃ t c, ts.get? key.table = some t ∧ t.isJoinTable = false ∧
    t.primaryKey = [c] ∧ c.name = key.column ∧ c.type = type

/-- The column `column` is there and refers to `key`. -/
def RefersIn (ts : OrderedMap Table) (column key : ColumnRef) : Prop :=
  ∃ t c, ts.get? column.table = some t ∧
    t.column? column.column = some c ∧ c.references = some key

/-- A table has one key. -/
theorem KeyIn.unique {ts : OrderedMap Table} {key key' : ColumnRef}
    {type type' : ColumnType} (h : KeyIn ts key type)
    (h' : KeyIn ts key' type') (htable : key.table = key'.table) :
    key = key' := by
  obtain ⟨t, c, ht, -, hprimary, hname, -⟩ := h
  obtain ⟨t', c', ht', -, hprimary', hname', -⟩ := h'
  rw [htable, ht'] at ht
  cases ht
  rw [hprimary'] at hprimary
  cases hprimary
  obtain ⟨table, column⟩ := key
  obtain ⟨table', column'⟩ := key'
  dsimp only at htable hname hname'
  rw [htable, ← hname, ← hname']

/-- A key has one type. -/
theorem KeyIn.type_unique {ts : OrderedMap Table} {key : ColumnRef}
    {type type' : ColumnType} (h : KeyIn ts key type)
    (h' : KeyIn ts key type') : type = type' := by
  obtain ⟨t, c, ht, -, hprimary, -, rfl⟩ := h
  obtain ⟨t', c', ht', -, hprimary', -, rfl⟩ := h'
  rw [ht'] at ht
  cases ht
  rw [hprimary'] at hprimary
  cases hprimary
  rfl

/-- A column refers to one key. -/
theorem RefersIn.unique {ts : OrderedMap Table} {column key key' : ColumnRef}
    (h : RefersIn ts column key) (h' : RefersIn ts column key') :
    key = key' := by
  obtain ⟨t, c, ht, hc, href⟩ := h
  obtain ⟨t', c', ht', hc', href'⟩ := h'
  rw [ht] at ht'
  cases ht'
  rw [hc] at hc'
  cases hc'
  rw [href] at href'
  exact Option.some.inj href'

namespace TablesGrow

variable {ts ts' ts'' : OrderedMap Table}

theorem refl (ts : OrderedMap Table) : TablesGrow ts ts :=
  fun _ t h => ⟨t, h, Table.Grows.refl t⟩

theorem trans (h : TablesGrow ts ts') (h' : TablesGrow ts' ts'') :
    TablesGrow ts ts'' := by
  intro k t ht
  obtain ⟨t₁, ht₁, hgrows₁⟩ := h k t ht
  obtain ⟨t₂, ht₂, hgrows₂⟩ := h' k t₁ ht₁
  exact ⟨t₂, ht₂, hgrows₁.trans hgrows₂⟩

/-- Putting a grown table in the place of the old one. -/
theorem insert {k : String} {t' : Table}
    (h : ∀ t, ts.get? k = some t → t.Grows t') :
    TablesGrow ts (ts.insert k t') := by
  intro j t ht
  by_cases hj : k = j
  · subst hj
    exact ⟨t', OrderedMap.get?_insert_self ts k t', h t ht⟩
  · exact ⟨t, by rw [OrderedMap.get?_insert_of_ne hj]; exact ht,
      Table.Grows.refl t⟩

theorem keyIn (h : TablesGrow ts ts') {key : ColumnRef} {type : ColumnType}
    (hkey : KeyIn ts key type) : KeyIn ts' key type := by
  obtain ⟨t, c, ht, hentity, hprimary, hname, htype⟩ := hkey
  obtain ⟨t', ht', hgrows⟩ := h _ t ht
  obtain ⟨c', hprimary', hshape⟩ := hgrows.primaryKey hentity hprimary
  obtain ⟨hname', htype', -, -⟩ := Column.eq_of_shape hshape
  exact ⟨t', c', ht', hgrows.isJoinTable.trans hentity, hprimary',
    hname'.trans hname, htype'.trans htype⟩

theorem refersIn (h : TablesGrow ts ts') {column key : ColumnRef}
    (hrefers : RefersIn ts column key) : RefersIn ts' column key := by
  obtain ⟨t, c, ht, hc, href⟩ := hrefers
  obtain ⟨t', ht', hgrows⟩ := h _ t ht
  obtain ⟨c', hc', hshape⟩ := hgrows.column hc
  obtain ⟨-, -, -, href'⟩ := Column.eq_of_shape hshape
  exact ⟨t', c', ht', hc', href'.trans href⟩

end TablesGrow

end SchemaTables.Storage
