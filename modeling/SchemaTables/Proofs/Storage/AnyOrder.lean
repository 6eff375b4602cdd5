/-
  SchemaTables.Proofs.Storage.AnyOrder
  ────────────────────────────────────
  **FOREIGN KEYS CAN BE ADDED IN ANY ORDER.**

  Foreign keys that are added to a table one after another go through just if
  columns of one name refer to the same, among those that are added and those
  that were there (`addAll_succeeds_iff`).  This is no matter of order, and
  neither is what comes of it (`addColumns_anyOrder`): each name has one
  column, which allows null if every column of the name does, and columns of
  other names stay as and where they are.

  Adding a column may also be seen as a change of the table in place, which
  looks for the name, then changes the column that it finds or puts one at the
  end (`putColumn`).  It does what `Table.addColumn` does, and where that is
  refused it has changed nothing (`putColumn_run`).
-/
import SchemaTables.Proofs.Storage.Additions
import SchemaTables.Proofs.Steps

namespace SchemaTables.Storage

/-! ## §1. Adding in place. -/

/-- Add a column to the table at hand: the answer is the reference to it. -/
def putColumn (new : Column) : EStateM StorageError Table ColumnRef := do
  let t ← get
  let i := t.columns.findIdx fun c => c.name = new.name
  match t.columns[i]? with
  | some old =>
      if old.sameReference new then
        set { t with columns := t.columns.set i (old.merged new) }
        return t.ref new.name
      else throw (.columnConflict t.name new.name)
  | none =>
      set { t with columns := t.columns ++ [new] }
      return t.ref new.name

/-- Walking down the columns is looking for the place of the name. -/
theorem addTo_eq_findIdx (new : Column) (cols : List Column) :
    addTo new cols =
      match cols[cols.findIdx fun c => c.name = new.name]? with
      | some old =>
          if old.sameReference new then
            some (cols.set (cols.findIdx fun c => c.name = new.name)
              (old.merged new))
          else none
      | none => some (cols ++ [new]) := by
  induction cols with
  | nil => rfl
  | cons c rest ih =>
      unfold addTo
      rw [List.findIdx_cons]
      by_cases hname : c.name = new.name
      · rw [if_pos hname, decide_eq_true hname, cond_true,
          List.getElem?_cons_zero]
        rfl
      · rw [if_neg hname, decide_eq_false hname, cond_false,
          List.getElem?_cons_succ, ih]
        cases rest[rest.findIdx fun c => c.name = new.name]? with
        | none => rfl
        | some old => by_cases hsame : old.sameReference new = true <;>
            simp [hsame]

/-- A change in place makes the table that adding makes.  One that is refused
leaves the table as it was. -/
theorem putColumn_run (new : Column) (t : Table) :
    (putColumn new).run t =
      match t.addColumn new with
      | .ok t' => .ok (t.ref new.name) t'
      | .error x => .error x t := by
  unfold Table.addColumn
  rw [addTo_eq_findIdx]
  show (match t.columns[t.columns.findIdx fun c => c.name = new.name]? with
    | some old =>
        if old.sameReference new then _
        else throw (.columnConflict t.name new.name)
    | none => _ : EStateM StorageError Table ColumnRef) t = _
  cases t.columns[t.columns.findIdx fun c => c.name = new.name]? with
  | none => rfl
  | some old => by_cases hsame : old.sameReference new = true <;>
      simp [hsame] <;> rfl

theorem eq_of_putColumn_error {new : Column} {t t' : Table} {x : StorageError}
    (h : (putColumn new).run t = .error x t') : t' = t := by
  rw [putColumn_run] at h
  cases hadd : t.addColumn new with
  | ok t₁ =>
      rw [hadd] at h
      cases h
  | error x₁ =>
      rw [hadd] at h
      cases h
      rfl

/-! ## §2. When adding goes through. -/

section Adding

variable {c : Column} {new cols cols' made : List Column}

/-- Foreign keys can be added just if they refer to what the columns of their
name refer to. -/
theorem addAll_succeeds_iff (hd : (cols.map Column.name).Nodup)
    (hforeign : ∀ x ∈ new, x.references.isSome = true) :
    (∃ made, addAll new cols = some made) ↔
      ∀ x ∈ new, ∀ y ∈ cols ++ new, y.name = x.name →
        y.references = x.references := by
  constructor
  · intro h
    obtain ⟨made, h⟩ := h
    exact references_addAll hd h
  · intro h
    -- names that stand twice are no hindrance in this direction
    clear hd
    induction new generalizing cols with
    | nil => exact ⟨cols, rfl⟩
    | cons c new ih =>
        have hc := h c List.mem_cons_self
        cases hstep : addTo c cols with
        | none =>
            -- the column that is in the way refers to the same
            obtain ⟨old, hfound, hother⟩ := addTo_eq_none_iff.mp hstep
            have hname := List.find?_some hfound
            rw [decide_eq_true_eq] at hname
            have hold : old ∈ cols ++ c :: new :=
              List.mem_append_left _ (List.mem_of_find?_eq_some hfound)
            have href := hc old hold hname
            have hsome := hforeign c List.mem_cons_self
            unfold Column.sameReference at hother
            rw [href, hsome, decide_eq_true rfl] at hother
            cases hother
        | some cols₁ =>
            -- a merged column refers to what the old one referred to, so the
            -- condition holds of what is left to add
            have hrest : ∀ x ∈ new, ∀ y ∈ cols₁ ++ new, y.name = x.name →
                y.references = x.references := by
              intro x hx y hy hname
              have hx' := h x (List.mem_cons_of_mem _ hx)
              rcases List.mem_append.mp hy with hy | hy
              · rcases mem_addTo hstep hy with hy | rfl | ⟨old, hold, -, -, rfl⟩
                · exact hx' y (List.mem_append_left _ hy) hname
                · exact hx' y (by simp) hname
                · exact hx' old (List.mem_append_left _ hold) hname
              · exact hx' y (by simp [hy]) hname
            obtain ⟨made, hmade⟩ := ih
              (fun x hx => hforeign x (List.mem_cons_of_mem _ hx)) hrest
            exact ⟨made, addAll_cons.mpr ⟨cols₁, hstep, hmade⟩⟩

/-- Columns that a name test picks out stay, unless it picks the new one. -/
theorem filter_addTo (test : String → Bool) (h : addTo c cols = some cols')
    (hc : test c.name = false) :
    cols'.filter (fun x => test x.name) = cols.filter fun x => test x.name := by
  rcases addTo_cases h with
    ⟨-, rfl⟩ | ⟨before, old, after, rfl, -, hname, -, rfl⟩
  · rw [List.filter_append, List.filter_cons, hc]
    simp
  · -- the merged column keeps the name: neither it nor the old one counts
    have hmerged : test (old.merged c).name = false := by
      show test old.name = false
      rw [hname, hc]
    have hold : test old.name = false := hmerged
    simp [hmerged, hold]

theorem filter_addAll (test : String → Bool) (h : addAll new cols = some made)
    (hnew : ∀ x ∈ new, test x.name = false) :
    made.filter (fun x => test x.name) = cols.filter fun x => test x.name := by
  induction new generalizing cols with
  | nil =>
      cases h
      rfl
  | cons c new ih =>
      obtain ⟨cols₁, hstep, hrest⟩ := addAll_cons.mp h
      rw [ih hrest fun x hx => hnew x (List.mem_cons_of_mem _ hx),
        filter_addTo test hstep (hnew c List.mem_cons_self)]

theorem nodup_addAll (hd : (cols.map Column.name).Nodup)
    (h : addAll new cols = some made) : (made.map Column.name).Nodup := by
  induction new generalizing cols with
  | nil =>
      cases h
      exact hd
  | cons c new ih =>
      obtain ⟨cols₁, hstep, hrest⟩ := addAll_cons.mp h
      exact ih (nodup_addTo hstep hd) hrest

/-- Of the columns that have the name of an added one there is one left. -/
theorem exists_of_addAll (hd : (cols.map Column.name).Nodup)
    (h : addAll new cols = some made) {x : Column} (hx : x ∈ new) :
    ∃ c ∈ made, (∃ y ∈ cols ++ new, y.name = x.name ∧ c.shape = y.shape) ∧
      (c.isNullable = true ↔
        ∀ y ∈ cols ++ new, y.name = x.name → y.isNullable = true) := by
  have hmade := named_addAll hd h x.name
  have hmem : x ∈ named x.name (cols ++ new) :=
    mem_named.mpr ⟨List.mem_append_right _ hx, rfl⟩
  cases hall : named x.name (cols ++ new) with
  | nil =>
      rw [hall] at hmem
      cases hmem
  | cons y rest =>
      have hnull : ∀ z, (z ∈ cols ++ new ∧ z.name = x.name) ↔
          z = y ∨ z ∈ rest := by
        intro z
        rw [← mem_named, hall, List.mem_cons]
      -- what is left is the first of them, blended with all the others
      rw [hall, blend] at hmade
      have hleft : _ ∈ named x.name made :=
        hmade ▸ List.mem_singleton_self _
      obtain ⟨hy, hyname⟩ := (hnull y).mpr (.inl rfl)
      refine ⟨_, (mem_named.mp hleft).1, ⟨y, hy, hyname, rfl⟩, ?_⟩
      simp only [Bool.and_eq_true, List.all_eq_true, ← and_imp, hnull,
        forall_eq_or_imp]

end Adding

/-! ## §3. Tables. -/

/-- Add columns to a table one after another. -/
def Table.addColumns (t : Table) (new : List Column) :
    Except StorageError Table :=
  new.foldlM Table.addColumn t

/-- Columns that refer to the same differ in no more than their names and
whether they allow null. -/
def Column.Agrees (x y : Column) : Prop :=
  x.references = y.references →
    x.type = y.type ∧ x.isPrimaryKey = y.isPrimaryKey ∧
      x.isAutoIncrement = y.isAutoIncrement

instance (x y : Column) : Decidable (x.Agrees y) :=
  inferInstanceAs (Decidable (_ → _))

/-- The table `t'` is `t` with these columns added.  Of all that have the name
of one of them a single column is left, which is like the added one but that
it allows null only if all of them do. -/
structure Table.Gains (t : Table) (new : List Column) (t' : Table) :
    Prop where
  name : t'.name = t.name
  entity : t'.entity = t.entity
  distinct : (t'.columns.map Column.name).Nodup
  added : ∀ x ∈ new, ∃ c ∈ t'.columns, c.shape = x.shape ∧
    (c.isNullable = true ↔
      ∀ y ∈ t.columns ++ new, y.name = x.name → y.isNullable = true)
  others : (t'.columns.filter fun c => c.name ∉ new.map Column.name)
    = t.columns.filter fun c => c.name ∉ new.map Column.name

section Tables

variable {t t' t'' : Table} {x y : Column}
  {new new' order order' : List Column}

theorem addColumns_eq_ok :
    t.addColumns new = .ok t' ↔
      ∃ cols, addAll new t.columns = some cols ∧
        t' = { t with columns := cols } := by
  unfold Table.addColumns
  induction new generalizing t with
  | nil => simp [addAll, pure, Except.pure, eq_comm]
  | cons c new ih =>
      rw [List.foldlM_cons, bind_eq_ok]
      simp only [addColumn_eq_ok, ih, addAll_cons]
      constructor
      · intro h
        obtain ⟨_, ⟨cols₁, hstep, rfl⟩, cols, hrest, rfl⟩ := h
        exact ⟨cols, ⟨cols₁, hstep, hrest⟩, rfl⟩
      · intro h
        obtain ⟨cols, ⟨cols₁, hstep, hrest⟩, rfl⟩ := h
        exact ⟨_, ⟨cols₁, hstep, rfl⟩, cols, hrest, rfl⟩

theorem exists_addColumns :
    (∃ t', t.addColumns new = .ok t') ↔
      ∃ cols, addAll new t.columns = some cols := by
  simp only [addColumns_eq_ok]
  exact ⟨fun ⟨_, cols, h, _⟩ => ⟨cols, h⟩, fun ⟨cols, h⟩ => ⟨_, cols, h, rfl⟩⟩

theorem Column.Agrees.shape_eq (h : x.Agrees y) (hname : y.name = x.name)
    (href : y.references = x.references) : y.shape = x.shape := by
  obtain ⟨htype, hkey, hincrement⟩ := h href.symm
  unfold Column.shape
  rw [Column.mk.injEq]
  exact ⟨hname, htype.symm, hkey.symm, hincrement.symm, rfl, href⟩

/-- In another order, the same columns are gained. -/
theorem Table.Gains.perm (h : t.Gains new t') (hperm : new.Perm new') :
    t.Gains new' t' := by
  refine ⟨h.name, h.entity, h.distinct, ?_, ?_⟩
  · intro x hx
    obtain ⟨c, hc, hshape, hnull⟩ := h.added x (hperm.mem_iff.mpr hx)
    refine ⟨c, hc, hshape, hnull.trans ?_⟩
    simp only [List.mem_append, hperm.mem_iff]
  · have hnames : ∀ n, n ∈ new'.map Column.name ↔ n ∈ new.map Column.name :=
      fun n => (hperm.map Column.name).symm.mem_iff
    simp only [hnames]
    exact h.others

theorem gains_of_addColumns (hdistinct : (t.columns.map Column.name).Nodup)
    (hagree : ∀ x ∈ new, ∀ y ∈ t.columns ++ new, x.Agrees y)
    (h : t.addColumns new = .ok t') : t.Gains new t' := by
  obtain ⟨cols, hcols, rfl⟩ := addColumns_eq_ok.mp h
  refine ⟨rfl, rfl, nodup_addAll hdistinct hcols, ?_, ?_⟩
  · intro x hx
    obtain ⟨c, hc, ⟨y, hy, hname, hshape⟩, hnull⟩ :=
      exists_of_addAll hdistinct hcols hx
    have href := references_addAll hdistinct hcols x hx y hy hname
    exact ⟨c, hc, hshape.trans ((hagree x hx y hy).shape_eq hname href),
      hnull⟩
  · apply filter_addAll (fun n => decide (n ∉ new.map Column.name)) hcols
    intro x hx
    simpa using ⟨x, hx, rfl⟩

/-- No part of the condition depends on the order. -/
theorem addColumns_succeeds_iff
    (hdistinct : (t.columns.map Column.name).Nodup)
    (hforeign : ∀ x ∈ new, x.references.isSome = true)
    (hperm : order.Perm new) :
    (∃ t', t.addColumns order = .ok t') ↔
      ∀ x ∈ new, ∀ y ∈ t.columns ++ new, y.name = x.name →
        y.references = x.references := by
  have hforeign' : ∀ x ∈ order, x.references.isSome = true := fun x hx =>
    hforeign x (hperm.mem_iff.mp hx)
  rw [exists_addColumns, addAll_succeeds_iff hdistinct hforeign']
  simp only [List.mem_append, hperm.mem_iff]

/-- Two orders make the same columns, though not in the same places. -/
theorem gains_of_perm (hdistinct : (t.columns.map Column.name).Nodup)
    (hagree : ∀ x ∈ new, ∀ y ∈ t.columns ++ new, x.Agrees y)
    (hperm : order.Perm new) (hperm' : order'.Perm new)
    (h : t.addColumns order = .ok t') (h' : t.addColumns order' = .ok t'') :
    t.Gains new t' ∧ t'.columns.Perm t''.columns := by
  have hagree' : ∀ x ∈ order, ∀ y ∈ t.columns ++ order, x.Agrees y := by
    simpa only [List.mem_append, hperm.mem_iff] using hagree
  refine ⟨(gains_of_addColumns hdistinct hagree' h).perm hperm, ?_⟩
  obtain ⟨cols, hcols, rfl⟩ := addColumns_eq_ok.mp h
  obtain ⟨cols', hcols', rfl⟩ := addColumns_eq_ok.mp h'
  have hshape : ∀ x ∈ order, ∀ y ∈ t.columns ++ order, y.name = x.name →
      y.references = x.references → y.shape = x.shape :=
    fun x hx y hy hname href => (hagree' x hx y hy).shape_eq hname href
  exact perm_addAll hdistinct (.refl t.columns) (hperm.trans hperm'.symm)
    hshape hcols hcols'

end Tables

/-- Foreign keys that are alike where they refer to the same, among each other
and with the columns of the table, can be added to it in one order just if
they can be in every order.  The columns are then the same whatever the order:
one for each name that is added, which allows null if all columns of the name
do, and those of other names, which stay as and in the order they were.

Adding a column in place comes to the same as adding it, and where it is
refused the table is left as it was. -/
theorem addColumns_anyOrder (t : Table) (new : List Column)
    (hdistinct : (t.columns.map Column.name).Nodup)
    (hforeign : ∀ x ∈ new, x.references.isSome = true)
    (hagree : ∀ x ∈ new, ∀ y ∈ t.columns ++ new, x.Agrees y) :
    ((∃ order, order.Perm new ∧ ∃ t', t.addColumns order = .ok t') ↔
        ∀ order, order.Perm new → ∃ t', t.addColumns order = .ok t') ∧
      (∀ order order' t' t'', order.Perm new → order'.Perm new →
        t.addColumns order = .ok t' → t.addColumns order' = .ok t'' →
          t.Gains new t' ∧ t'.columns.Perm t''.columns) ∧
      ∀ (u : Table) (c : Column),
        ((putColumn c).run u =
          match u.addColumn c with
          | .ok u' => .ok (u.ref c.name) u'
          | .error x => .error x u) ∧
        ∀ x u', (putColumn c).run u = .error x u' → u' = u := by
  refine ⟨?_, ?_, fun u c => ⟨putColumn_run c u, fun _ _ =>
    eq_of_putColumn_error⟩⟩
  · constructor
    · intro h order hperm
      obtain ⟨order', hperm', h⟩ := h
      rw [addColumns_succeeds_iff hdistinct hforeign hperm'] at h
      exact (addColumns_succeeds_iff hdistinct hforeign hperm).mpr h
    · intro h
      exact ⟨new, .refl new, h new (.refl new)⟩
  · intro order order' t' t'' hperm hperm' h h'
    exact gains_of_perm hdistinct hagree hperm hperm' h h'

/-- A foreign key to the authors. -/
def authorKey (name : String) (nullable : Bool) : Column where
  name := name
  type := .uuid
  isPrimaryKey := false
  isAutoIncrement := false
  isNullable := nullable
  references := some ⟨"authors", "id"⟩

/-- The table of books, which has a foreign key to the authors already. -/
def booksTable : Table where
  name := "books"
  entity := some "Book"
  columns :=
    [ { authorKey "id" false with isPrimaryKey := true, references := none },
      authorKey "author_id" true ]

/-- The foreign key that is there, now with a value in any case, and two more,
one of which is asked for twice. -/
def bookKeys : List Column :=
  [authorKey "editor_id" true, authorKey "author_id" false,
    authorKey "editor_id" false, authorKey "translator_id" true]

/-- From first to last and from last to first, the columns that are new come
in another order. -/
theorem addColumns_anyOrder_books :
    (booksTable.columns.map Column.name).Nodup ∧
      (∀ x ∈ bookKeys, x.references.isSome = true) ∧
      (∀ x ∈ bookKeys, ∀ y ∈ booksTable.columns ++ bookKeys, x.Agrees y) ∧
      ∃ t' t'', booksTable.addColumns bookKeys = .ok t' ∧
        booksTable.addColumns bookKeys.reverse = .ok t'' ∧ t' ≠ t'' ∧
        booksTable.Gains bookKeys t' ∧ t'.columns.Perm t''.columns := by
  have hdistinct : (booksTable.columns.map Column.name).Nodup := by decide
  have hforeign : ∀ x ∈ bookKeys, x.references.isSome = true := by decide
  have hagree : ∀ x ∈ bookKeys, ∀ y ∈ booksTable.columns ++ bookKeys,
      x.Agrees y := by decide
  have hboth := addColumns_anyOrder booksTable bookKeys hdistinct hforeign
    hagree
  obtain ⟨t', h⟩ : ∃ t', booksTable.addColumns bookKeys = .ok t' := ⟨_, rfl⟩
  obtain ⟨t'', h'⟩ := hboth.1.mp ⟨bookKeys, .refl _, t', h⟩ bookKeys.reverse
    (List.reverse_perm bookKeys)
  have hne : t' ≠ t'' := by
    intro heq
    rw [← heq, ← h] at h'
    exact absurd (congrArg Except.toOption h') (by decide)
  exact ⟨hdistinct, hforeign, hagree, t', t'', h, h', hne,
    hboth.2.1 _ _ t' t'' (.refl _) (List.reverse_perm bookKeys) h h'⟩

end SchemaTables.Storage
