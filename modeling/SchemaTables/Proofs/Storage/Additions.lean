/-
  SchemaTables.Proofs.Storage.Additions
  ─────────────────────────────────────
  **COLUMNS ADDED ONE AFTER ANOTHER.**

  What adding many columns makes of a table is known name by name: of all
  columns of a name, those that were there and those that were added, one is
  left, and it allows null if all of them do (`named_addAll`).  Only columns
  that refer to the same come together in this way (`references_addAll`).  So
  what refers to nothing stays as it is, in front (`addAll_eq_append`), and a
  foreign key allows null if all that were added for it do
  (`isNullable_addAll`).

  So the order does not matter, as long as the columns that come together
  differ in their nullability only (`perm_addAll`).
-/
import Mathlib.Data.List.Nodup
import SchemaTables.Proofs.Storage.Growth

namespace SchemaTables.Storage

/-! ## §1. Columns of one name. -/

/-- The columns of this name. -/
def named (n : String) (cols : List Column) : List Column :=
  cols.filter fun c => c.name = n

/-- Columns that come together: the first of them, which allows null if all
of them do. -/
def blend : List Column → List Column
  | [] => []
  | c :: rest =>
      [{ c with isNullable := c.isNullable && rest.all Column.isNullable }]

section Named

variable {n : String} {c : Column} {cols cols' : List Column}

theorem mem_named : c ∈ named n cols ↔ c ∈ cols ∧ c.name = n := by
  unfold named
  rw [List.mem_filter, decide_eq_true_eq]

theorem named_append (n : String) (cols cols' : List Column) :
    named n (cols ++ cols') = named n cols ++ named n cols' :=
  List.filter_append cols cols'

theorem named_cons (n : String) (c : Column) (cols : List Column) :
    named n (c :: cols) =
      if c.name = n then c :: named n cols else named n cols := by
  unfold named
  rw [List.filter_cons]
  simp only [decide_eq_true_eq]

theorem named_eq_nil (h : n ∉ cols.map Column.name) : named n cols = [] := by
  unfold named
  rw [List.filter_eq_nil_iff]
  intro c hc hname
  rw [decide_eq_true_eq] at hname
  exact h (List.mem_map.mpr ⟨c, hc, hname⟩)

/-- Lists that have the same columns of every name differ in order only. -/
theorem perm_of_named (h : ∀ n, named n cols = named n cols') :
    cols.Perm cols' := by
  rw [List.perm_iff_count]
  intro c
  have hcount : ∀ l : List Column,
      (named c.name l).count c = l.count c := fun l =>
    List.count_filter (decide_eq_true rfl)
  rw [← hcount cols, ← hcount cols', h]

/-- Where names are distinct, there is nothing to come together. -/
theorem blend_named (hd : (cols.map Column.name).Nodup) (n : String) :
    blend (named n cols) = named n cols := by
  match hnamed : named n cols with
  | [] => rfl
  | [c] => simp [blend]
  | c :: c' :: rest =>
      have hsub : ((named n cols).map Column.name).Nodup :=
        hd.sublist (List.filter_sublist.map _)
      have hname : ∀ x ∈ named n cols, x.name = n := fun x hx =>
        (mem_named.mp hx).2
      rw [hnamed] at hsub hname
      have heq : c.name = c'.name := by
        rw [hname c (by simp), hname c' (by simp)]
      simp [heq] at hsub

/-- Some columns may come together before the others. -/
theorem blend_blend_append (cols cols' : List Column) :
    blend (blend cols ++ cols') = blend (cols ++ cols') := by
  cases cols with
  | nil => rfl
  | cons c rest => simp [blend, List.all_append, Bool.and_assoc]

/-- The first column does not matter if all have one shape. -/
theorem blend_perm (hperm : cols.Perm cols')
    (hshape : ∀ x ∈ cols, ∀ y ∈ cols, x.shape = y.shape) :
    blend cols = blend cols' := by
  cases cols with
  | nil => rw [List.nil_perm.mp hperm]
  | cons c rest =>
      cases cols' with
      | nil => exact absurd hperm.symm (List.not_perm_nil_cons c rest)
      | cons c' rest' =>
          have hc : c.shape = c'.shape :=
            hshape c List.mem_cons_self c' (hperm.mem_iff.mpr
              List.mem_cons_self)
          have hall : (c :: rest).all Column.isNullable
              = (c' :: rest').all Column.isNullable :=
            hperm.all_eq
          rw [List.all_cons, List.all_cons] at hall
          -- a column is its shape and whether it allows null
          have hwith : ∀ b : Bool, { c with isNullable := b }
              = ({ c' with isNullable := b } : Column) := fun b =>
            congrArg (fun x : Column => { x with isNullable := b }) hc
          show [{ c with isNullable := _ }] = [{ c' with isNullable := _ }]
          rw [hall, hwith]

end Named

/-! ## §2. Adding. -/

/-- Add columns one after another. -/
def addAll (new cols : List Column) : Option (List Column) :=
  new.foldlM (fun cols c => addTo c cols) cols

section Adding

variable {n : String} {c : Column}
  {new new' cols cols' made made' : List Column}

theorem addAll_cons :
    addAll (c :: new) cols = some made ↔
      ∃ cols₁, addTo c cols = some cols₁ ∧ addAll new cols₁ = some made := by
  unfold addAll
  rw [List.foldlM_cons]
  exact Option.bind_eq_some_iff

theorem addAll_append :
    addAll (new ++ new') cols = some made ↔
      ∃ cols₁, addAll new cols = some cols₁ ∧
        addAll new' cols₁ = some made := by
  unfold addAll
  rw [List.foldlM_append]
  exact Option.bind_eq_some_iff

/-- Adding a column brings it together with those of its name. -/
theorem named_addTo (hd : (cols.map Column.name).Nodup)
    (h : addTo c cols = some cols') (n : String) :
    named n cols' = blend (named n (cols ++ [c])) := by
  rcases addTo_cases h with
    ⟨hfresh, rfl⟩ | ⟨before, old, after, rfl, hbefore, hname, -, rfl⟩
  · exact (blend_named (nodup_addTo h hd) n).symm
  · by_cases hn : c.name = n
    · -- there is no other column of the name than the old one
      have hafter : c.name ∉ after.map Column.name := by
        rw [List.map_append, List.map_cons, List.perm_middle.nodup_iff,
          List.nodup_cons, List.mem_append, not_or] at hd
        rw [← hname]
        exact hd.1.2
      have hmerged : (old.merged c).name = c.name := hname
      subst hn
      rw [named_append, named_append, named_append, named_cons, named_cons,
        named_cons, named_eq_nil hbefore, named_eq_nil hafter, if_pos hmerged,
        if_pos hname, if_pos rfl]
      simp [named, blend, Column.merged]
    · have hold : ¬ old.name = n := fun heq => hn (hname ▸ heq)
      have hmerged : ¬ (old.merged c).name = n := hold
      have hsame : named n (before ++ old.merged c :: after)
          = named n (before ++ old :: after) := by
        rw [named_append, named_append, named_cons, named_cons,
          if_neg hmerged, if_neg hold]
      rw [named_append _ _ [c], named_cons, if_neg hn, hsame]
      show _ = blend (named n (before ++ old :: after) ++ [])
      rw [List.append_nil, blend_named hd]

/-- Of all columns of a name, one is left. -/
theorem named_addAll :
    ∀ {new cols : List Column}, (cols.map Column.name).Nodup →
      addAll new cols = some made →
      ∀ n, named n made = blend (named n (cols ++ new))
  | [], cols, hd, h, n => by
      cases h
      rw [List.append_nil, blend_named hd]
  | c :: new, cols, hd, h, n => by
      obtain ⟨cols₁, hstep, hrest⟩ := addAll_cons.mp h
      rw [named_addAll (nodup_addTo hstep hd) hrest, named_append,
        named_addTo hd hstep, blend_blend_append, ← named_append,
        List.append_assoc]
      rfl

/-- A foreign key must have a value if it must in one of the columns of its
name that were added. -/
theorem isNullable_addAll (hd : (cols.map Column.name).Nodup)
    (hplain : ∀ x ∈ cols, x.references = none)
    (h : addAll new cols = some made) (hc : c ∈ made)
    (href : c.references.isSome = true) :
    c.isNullable = false ↔
      ∃ x ∈ new, x.name = c.name ∧ x.isNullable = false := by
  have hmade := named_addAll hd h c.name
  have hmem : c ∈ named c.name made := mem_named.mpr ⟨hc, rfl⟩
  rw [hmade, named_append] at hmem
  -- a column that was there would have made `c` one without a reference
  have hnone : named c.name cols = [] := by
    cases hold : named c.name cols with
    | nil => rfl
    | cons y rest =>
        have hy : y ∈ named c.name cols := by
          rw [hold]
          exact List.mem_cons_self
        rw [hold, List.cons_append, blend, List.mem_singleton] at hmem
        rw [hmem] at href
        rw [hplain y (mem_named.mp hy).1] at href
        cases href
  have hall : c.isNullable = (named c.name new).all Column.isNullable := by
    rw [hnone, List.nil_append] at hmem
    cases hnew : named c.name new with
    | nil =>
        rw [hnew] at hmem
        cases hmem
    | cons y rest =>
        rw [hnew, blend, List.mem_singleton] at hmem
        rw [hmem]
        rfl
  rw [hall, List.all_eq_false]
  constructor
  · intro hx
    obtain ⟨x, hx, hnull⟩ := hx
    obtain ⟨hx, hname⟩ := mem_named.mp hx
    exact ⟨x, hx, hname, Bool.eq_false_iff.mpr hnull⟩
  · intro hx
    obtain ⟨x, hx, hname, hnull⟩ := hx
    exact ⟨x, mem_named.mpr ⟨hx, hname⟩, Bool.eq_false_iff.mp hnull⟩

/-- A column goes behind, or comes together with one behind, those that refer
to nothing. -/
theorem addTo_append_of_plain {plain foreign : List Column}
    (hplain : ∀ x ∈ plain, x.references = none)
    (h : addTo c (plain ++ foreign) = some made) :
    ∃ foreign', addTo c foreign = some foreign' ∧
      made = plain ++ foreign' := by
  induction plain generalizing made with
  | nil => exact ⟨made, h, rfl⟩
  | cons x plain ih =>
      rw [List.cons_append] at h
      unfold addTo at h
      split at h
      · split at h
        · next hsame =>
            -- what refers to nothing is no foreign key
            have hsome := (Column.references_of_sameReference hsame).1
            rw [hplain x List.mem_cons_self] at hsome
            cases hsome
        · cases h
      · obtain ⟨rest, hrest, rfl⟩ := Option.map_eq_some_iff.mp h
        obtain ⟨foreign', hforeign, rfl⟩ :=
          ih (fun y hy => hplain y (List.mem_cons_of_mem _ hy)) hrest
        exact ⟨foreign', hforeign, rfl⟩

/-- Columns that refer to nothing stay as they are, in front of the foreign
keys that are added. -/
theorem addAll_eq_append {plain : List Column}
    (hplain : ∀ x ∈ plain, x.references = none)
    (hnew : ∀ x ∈ new, x.references.isSome = true)
    (h : addAll new plain = some made) :
    ∃ foreign, made = plain ++ foreign ∧
      ∀ x ∈ foreign, x.references.isSome = true := by
  have key : ∀ (new foreign made : List Column),
      (∀ x ∈ new, x.references.isSome = true) →
      (∀ x ∈ foreign, x.references.isSome = true) →
      addAll new (plain ++ foreign) = some made →
      ∃ foreign', made = plain ++ foreign' ∧
        ∀ x ∈ foreign', x.references.isSome = true := by
    intro new
    induction new with
    | nil =>
        intro foreign made _ hforeign h
        cases h
        exact ⟨foreign, rfl, hforeign⟩
    | cons c new ih =>
        intro foreign made hnew hforeign h
        obtain ⟨cols₁, hstep, hrest⟩ := addAll_cons.mp h
        obtain ⟨foreign₁, hadd, rfl⟩ := addTo_append_of_plain hplain hstep
        apply ih foreign₁ made _ _ hrest
        · exact fun x hx => hnew x (List.mem_cons_of_mem _ hx)
        · intro x hx
          rcases mem_addTo hadd hx with hx | rfl | ⟨old, hold, -, -, rfl⟩
          · exact hforeign x hx
          · exact hnew x List.mem_cons_self
          · exact hforeign old hold
  exact key new [] made hnew (by simp) (by rw [List.append_nil]; exact h)

/-- What was there or is added is found afterwards, with its reference. -/
theorem exists_addTo (h : addTo c cols = some cols') {x : Column}
    (hx : x ∈ cols ∨ x = c) :
    ∃ y ∈ cols', y.name = x.name ∧ y.references = x.references := by
  rcases addTo_cases h with
    ⟨-, rfl⟩ | ⟨before, old, after, rfl, -, hname, hsame, rfl⟩
  · refine ⟨x, ?_, rfl, rfl⟩
    rw [List.mem_append, List.mem_singleton]
    exact hx
  · have hmerged : old.merged c ∈ before ++ old.merged c :: after := by simp
    rcases hx with hx | rfl
    · rw [List.mem_append, List.mem_cons] at hx
      rcases hx with hx | rfl | hx
      · exact ⟨x, by simp [hx], rfl, rfl⟩
      · exact ⟨_, hmerged, rfl, rfl⟩
      · exact ⟨x, by simp [hx], rfl, rfl⟩
    · exact ⟨_, hmerged, hname,
        (Column.references_of_sameReference hsame).2⟩

/-- What an added column refers to is what the columns of its name refer
to. -/
theorem references_addAll :
    ∀ {new cols : List Column}, (cols.map Column.name).Nodup →
      addAll new cols = some made →
      ∀ x ∈ new, ∀ y ∈ cols ++ new, y.name = x.name →
        y.references = x.references
  | c :: new, cols, hd, h, x, hx, y, hy, hname => by
      obtain ⟨cols₁, hstep, hrest⟩ := addAll_cons.mp h
      have hd₁ := nodup_addTo hstep hd
      have ih := references_addAll hd₁ hrest
      obtain ⟨c₁, hc₁, hcname, hcref⟩ := exists_addTo hstep (.inr rfl)
      -- the columns so far and the first one are found among `cols₁`
      have hfound : y ∈ new ∨ ∃ y₁ ∈ cols₁, y₁.name = y.name ∧
          y₁.references = y.references := by
        rcases List.mem_append.mp hy with hy | hy
        · exact .inr (exists_addTo hstep (.inl hy))
        · rcases List.mem_cons.mp hy with rfl | hy
          · exact .inr ⟨c₁, hc₁, hcname, hcref⟩
          · exact .inl hy
      rcases List.mem_cons.mp hx with rfl | hx
      · rcases hfound with hy | ⟨y₁, hy₁, hyname, hyref⟩
        · have hback := ih y hy c₁ (List.mem_append_left _ hc₁)
            (hcname.trans hname.symm)
          rw [← hback, hcref]
        · have heq : y₁ = c₁ := List.inj_on_of_nodup_map hd₁ hy₁ hc₁
            (by rw [hyname, hname, hcname])
          rw [← hyref, heq, hcref]
      · rcases hfound with hy | ⟨y₁, hy₁, hyname, hyref⟩
        · exact ih x hx y (List.mem_append_right _ hy) hname
        · rw [← hyref]
          exact ih x hx y₁ (List.mem_append_left _ hy₁) (hyname.trans hname)

/-- The order in which columns are added does not matter, nor does that of
the columns that they are added to, where those that refer to the same differ
in their nullability only. -/
theorem perm_addAll (hd : (cols.map Column.name).Nodup)
    (hcols : cols.Perm cols') (hnew : new.Perm new')
    (hagree : ∀ x ∈ new, ∀ y ∈ cols ++ new, y.name = x.name →
      y.references = x.references → y.shape = x.shape)
    (h : addAll new cols = some made) (h' : addAll new' cols' = some made') :
    made.Perm made' := by
  have hd' : (cols'.map Column.name).Nodup :=
    (hcols.map Column.name).nodup_iff.mp hd
  apply perm_of_named
  intro n
  rw [named_addAll hd h, named_addAll hd' h']
  have hperm : (named n (cols ++ new)).Perm (named n (cols' ++ new')) :=
    (hcols.append hnew).filter _
  have hshape : ∀ x ∈ new, ∀ y ∈ cols ++ new, y.name = x.name →
      y.shape = x.shape := fun x hx y hy hname =>
    hagree x hx y hy hname (references_addAll hd h x hx y hy hname)
  apply blend_perm hperm
  intro y hy z hz
  obtain ⟨hy, hyname⟩ := mem_named.mp hy
  obtain ⟨hz, hzname⟩ := mem_named.mp hz
  rcases List.mem_append.mp hz with hzold | hznew
  · rcases List.mem_append.mp hy with hyold | hynew
    · -- of what was there, only one column has the name
      rw [List.inj_on_of_nodup_map hd hyold hzold (hyname.trans hzname.symm)]
    · exact (hshape y hynew z hz (hzname.trans hyname.symm)).symm
  · exact hshape z hznew y hy (hyname.trans hzname.symm)

end Adding

end SchemaTables.Storage
