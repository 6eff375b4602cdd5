/-
  SchemaTables.Proofs.Storage.JoinColumns
  ───────────────────────────────────────
  **THE TWO COLUMNS OF A JOIN TABLE.**

  A `belongsToMany` is stored by two columns of its join table, one for each
  end.  The first is named after the entity, the second after the target:

      Book.tags : [Tag]             book_id     tag_id
      Person.friends : [Person]     person_id   friends_id

  An entity that relates to itself names the second after the field instead.
  Columns of one name that refer to one key are merged.  Two entities have
  two keys, so that their columns stay two or are reported as a conflict; the
  two ends of an entity that relates to itself have one.  So an association
  has two columns just where its field is not named after its own entity
  (`joinColumns_apart_iff`).
-/
import SchemaTables.Proofs.Storage.Build

namespace SchemaTables.Storage

open Sdl Elaboration Text

/-! ## §1. Columns and names. -/

/-- The reference `c` names a column of the table `t`. -/
def Table.HasColumn (t : Table) (c : ColumnRef) : Prop :=
  ∃ column ∈ t.columns, c = t.ref column.name

/-- The link joins two ends by the columns `one` and `other` of its join
table. -/
def Link.JoinsBy (m : Model) (l : Link) (one other : ColumnRef) : Prop :=
  ∃ n t, l = .manyToMany n one other ∧ m.table? n = some t ∧
    t.entity = none ∧ t.HasColumn one ∧ t.HasColumn other

/-- The field `f` of `e` leads back to `e`, and its name gives the column
that the name of `e` gives. -/
def NamesItself (e : Entity) (f : Field) : Prop :=
  f.baseType = e.name ∧ snakeCase f.name = snakeCase e.name

instance (e : Entity) (f : Field) : Decidable (NamesItself e f) :=
  inferInstanceAs (Decidable (_ ∧ _))

/-- The relation `r` is the one of the association `a`, and a `belongsToMany`
has two columns unless its field is named after its own entity. -/
structure JoinsTwoEnds (m : Model) (a : Entity × Field × Association)
    (r : Relation) : Prop where
  relation : r = relationOf a r.link
  columns : a.2.2 = .belongsToMany → ∃ one other,
    r.link.JoinsBy m one other ∧ (one = other ↔ NamesItself a.1 a.2.1)

/-- Every `belongsToMany` is stored by two different columns. -/
def Model.JoinColumnsApart (m : Model) : Prop :=
  ∀ r ∈ m.relations, r.kind = .belongsToMany → ∃ one other,
    r.link.JoinsBy m one other ∧ one ≠ other

theorem Link.JoinsBy.unique {m : Model} {l : Link}
    {one other one' other' : ColumnRef} (h : l.JoinsBy m one other)
    (h' : l.JoinsBy m one' other') : one' = one ∧ other' = other := by
  obtain ⟨n, t, rfl, -⟩ := h
  obtain ⟨n', t', heq, -⟩ := h'
  cases heq
  exact ⟨rfl, rfl⟩

theorem foreignKeyName_inj {a b : String} :
    foreignKeyName a = foreignKeyName b ↔ snakeCase a = snakeCase b :=
  String.append_left_inj "_id"

/-! ## §2. One association. -/

section Association

variable {s : Schema} {d : Draft} {e : Entity} {f : Field}
  {key : ColumnRef} {type : ColumnType} {l : Link}

/-- A key is that of one entity. -/
theorem Draft.Sound.entity_unique (hd : d.Sound) {n n' : String}
    {type' : ColumnType} (h : d.IsKeyOf n key type)
    (h' : d.IsKeyOf n' key type') : n = n' := by
  obtain ⟨t, ht, hentity⟩ := hd.entity n _ h.table
  obtain ⟨t', ht', hentity'⟩ := hd.entity n' _ h'.table
  rw [ht] at ht'
  cases ht'
  rw [hentity] at hentity'
  exact Option.some.inj hentity'

theorem RefersIn.hasColumn (hd : d.Sound) {n c : String} {t : Table}
    (h : RefersIn d.tables ⟨n, c⟩ key) (ht : d.tables.get? n = some t) :
    t.HasColumn ⟨n, c⟩ := by
  obtain ⟨t', column, ht', hcolumn, -⟩ := h
  rw [ht] at ht'
  cases ht'
  obtain ⟨hmem, hname⟩ := Table.of_column? hcolumn
  refine ⟨column, hmem, ?_⟩
  rw [Table.ref, hd.stored n t ht, hname]

/-- The second column has the name of the first if and only if the field is
named after its own entity: one column cannot refer to two keys. -/
theorem farName_iff (hd : d.Sound) {target : ColumnRef}
    {targetType : ColumnType} {n : String} (hkey : d.IsKeyOf e.name key type)
    (htarget : d.IsKeyOf f.baseType target targetType)
    (hone : RefersIn d.tables ⟨n, foreignKeyName e.name⟩ key)
    (hother : RefersIn d.tables ⟨n, foreignKeyName (farName e f)⟩ target) :
    foreignKeyName e.name = foreignKeyName (farName e f) ↔
      NamesItself e f := by
  by_cases hself : f.baseType = e.name
  · -- both columns refer to the one key, so that only the names count
    have hfar : farName e f = f.name := if_pos hself
    rw [hfar, foreignKeyName_inj, eq_comm]
    exact (and_iff_right hself).symm
  · refine iff_of_false ?_ (fun hnames => hself hnames.1)
    intro hname
    rw [← hname] at hother
    have hsame := hone.unique hother
    rw [← hsame] at htarget
    exact hself (hd.entity_unique htarget hkey)

theorem Stored.joinsBy {m : Model} (hd : d.Sound) (hm : m.tables = d.tables)
    (h : Stored s d e f .belongsToMany l) :
    ∃ one other, l.JoinsBy m one other ∧ (one = other ↔ NamesItself e f) := by
  cases h with
  | has hkind => cases hkind
  | @belongsToMany key target _ _ _ n t hkey htarget _ _ htable hjoin hone
      hother =>
      have hget : m.table? n = some t := by
        unfold Model.table?
        rw [hm]
        exact htable
      refine ⟨_, _, ⟨n, t, rfl, hget, Table.isJoinTable_iff.mp hjoin,
        hone.hasColumn hd htable, hother.hasColumn hd htable⟩, ?_⟩
      rw [ColumnRef.mk.injEq, and_iff_right rfl]
      exact farName_iff hd hkey htarget hone hother

end Association

/-! ## §3. The model. -/

theorem build_joinsTwoEnds {s : Schema} {m : Model} (h : build s = .ok m) :
    List.Forall₂ (JoinsTwoEnds m) s.associations m.relations := by
  obtain ⟨d, rels, hrun, rfl⟩ := build_eq_ok h
  have hrunning := linkAll_running hrun
  apply hrunning.records.imp
  intro a r hr
  refine ⟨hr.eq, ?_⟩
  intro hkind
  have hstored := hr.stored
  rw [hkind] at hstored
  exact hstored.joinsBy hrunning.sound rfl

/-- The columns are apart if no field is named after its own entity, and only
then. -/
theorem apart_iff_of_joinsTwoEnds {m : Model}
    {as : List (Entity × Field × Association)}
    (h : List.Forall₂ (JoinsTwoEnds m) as m.relations) :
    m.JoinColumnsApart ↔
      ∀ a ∈ as, a.2.2 = .belongsToMany → ¬ NamesItself a.1 a.2.1 := by
  constructor
  · intro hapart a ha hkind hnames
    obtain ⟨r, hr, hra⟩ := exists_right_of_forall₂ h a ha
    have hrkind : r.kind = .belongsToMany := by
      rw [hra.relation]
      exact hkind
    obtain ⟨one, other, hby, hiff⟩ := hra.columns hkind
    obtain ⟨one', other', hby', hne⟩ := hapart r hr hrkind
    -- the link has no other columns
    obtain ⟨rfl, rfl⟩ := hby.unique hby'
    exact hne (hiff.mpr hnames)
  · intro hapart r hr hkind
    obtain ⟨a, ha, hra⟩ := exists_left_of_forall₂ h r hr
    have hakind : a.2.2 = .belongsToMany := by
      rw [hra.relation] at hkind
      exact hkind
    obtain ⟨one, other, hby, hiff⟩ := hra.columns hakind
    exact ⟨one, other, hby, fun heq => hapart a ha hakind (hiff.mp heq)⟩

/-- In every model, a `belongsToMany` has its columns in its join table, and
these are one if and only if the field is named after its own entity. -/
theorem joinColumns_apart_iff {s : Schema} {m : Model}
    (h : build s = .ok m) :
    List.Forall₂ (JoinsTwoEnds m) s.associations m.relations ∧
      (m.JoinColumnsApart ↔
        ∀ a ∈ s.associations, a.2.2 = .belongsToMany →
          ¬ NamesItself a.1 a.2.1) := by
  have hjoins := build_joinsTwoEnds h
  exact ⟨hjoins, apart_iff_of_joinsTwoEnds hjoins⟩

/-- Books and tags are joined from both sides, each by two columns. -/
theorem joinColumns_apart_bookshelf :
    ∃ s m, (elaborate {} [bookshelf]).result = .ok s ∧ build s = .ok m ∧
      (m.relations.filter fun r => r.kind = .belongsToMany).length = 2 ∧
      List.Forall₂ (JoinsTwoEnds m) s.associations m.relations ∧
      m.JoinColumnsApart := by
  have hrun : (modelOf [bookshelf]).map (fun sm =>
      ((sm.2.relations.filter fun r => r.kind = .belongsToMany).length,
        decide (∀ a ∈ sm.1.associations, a.2.2 = .belongsToMany →
          ¬ NamesItself a.1 a.2.1))) = some (2, true) := by
    decide +kernel
  obtain ⟨⟨s, m⟩, hmodel, hboth⟩ := Option.map_eq_some_iff.mp hrun
  obtain ⟨hs, hm⟩ := modelOf_eq_some.mp hmodel
  rw [Prod.mk.injEq, decide_eq_true_eq] at hboth
  obtain ⟨hcount, hnames⟩ := hboth
  obtain ⟨hjoins, hiff⟩ := joinColumns_apart_iff hm
  exact ⟨s, m, hs, hm, hcount, hjoins, hiff.mpr hnames⟩

/-! ## §4. A field that is named after its own entity. -/

/-- A person with other persons: both ends have the column `person_id`. -/
def personOfPersons : Document where
  definitions :=
    [ objectType "Person" "People"
        [associationTo "Person" "person" .belongsToMany] ]

/-- The two ends of an association may end up in one column. -/
theorem joinColumns_not_apart :
    ∃ s m, (elaborate {} [personOfPersons]).result = .ok s ∧
      build s = .ok m ∧ ¬ m.JoinColumnsApart := by
  have hrun : (modelOf [personOfPersons]).map (fun sm =>
      sm.2.relations.map fun r => (r.kind, r.link)) =
      some [(.belongsToMany, .manyToMany "people_people"
        ⟨"people_people", "person_id"⟩ ⟨"people_people", "person_id"⟩)] := by
    decide +kernel
  obtain ⟨⟨s, m⟩, hmodel, hrelations⟩ := Option.map_eq_some_iff.mp hrun
  obtain ⟨hs, hm⟩ := modelOf_eq_some.mp hmodel
  obtain ⟨r, hr, hrx⟩ := exists_of_map_eq hrelations List.mem_cons_self
  rw [Prod.mk.injEq] at hrx
  obtain ⟨hkind, hlink⟩ := hrx
  refine ⟨s, m, hs, hm, ?_⟩
  intro hapart
  obtain ⟨one, other, ⟨n, t, hby, -⟩, hne⟩ := hapart r hr hkind
  rw [hlink] at hby
  cases hby
  exact hne rfl

end SchemaTables.Storage
