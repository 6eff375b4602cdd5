/-
  SchemaTables.Proofs.Storage.Names
  ─────────────────────────────────
  **WHICH TABLES AND COLUMNS HAVE A NAME.**

  All names of a model come about in one of a few ways (`build_named`):

      the table of an entity      its plural in snake case
      a join table                two names, joined by an underscore
      the column of a field       the name of the field in snake case
      the numbered key            `id`
      a foreign key               a name in snake case, and `_id`

  Two of them consist of nothing but a name in snake case, which is empty if
  the name has neither letter nor digit.  So a model has no empty names if and
  only if the plurals and the names of the primitive fields have words
  (`namesNonempty_iff`), and the plural of an entity without words is one that
  its type declares.
-/
import SchemaTables.Proofs.Operations
import SchemaTables.Proofs.Storage.EntityTables
import SchemaTables.Proofs.Text.Plural

namespace SchemaTables.Storage

open Elaboration Text

/-! ## §1. Names in snake case. -/

theorem foreignKeyName_ne_empty (name : String) :
    foreignKeyName name ≠ "" := by
  unfold foreignKeyName
  intro h
  have hlength := congrArg String.length h
  rw [String.length_append] at hlength
  exact absurd hlength (Nat.succ_ne_zero _)

/-- Two names are joined by an underscore. -/
theorem joined_ne_empty (a b : String) : a ++ "_" ++ b ≠ "" := by
  intro h
  have hlength := congrArg String.length h
  have hone : "_".length = 1 := by decide
  have hnone : "".length = 0 := by decide
  rw [String.length_append, String.length_append, hone, hnone] at hlength
  omega

theorem joinNameOf_eq (shared : Bool) (own other : String) (f : Field) :
    ∃ a b, joinNameOf shared own other f = a ++ "_" ++ b := by
  unfold joinNameOf joinTableName
  split
  · split
    · exact ⟨other, own, rfl⟩
    · exact ⟨own, other, rfl⟩
  · exact ⟨own, columnName f.name, rfl⟩

/-! ## §2. Where names come from. -/

/-- Where the name of a table comes from. -/
inductive Table.NamedIn (s : Schema) (t : Table) : Prop where
  | entity {e : Entity} (he : e ∈ s.toList) (hname : t.name = tableName e)
      (hentity : t.entity = some e.name)
  | join {a b : String} (hname : t.name = a ++ "_" ++ b)
      (hentity : t.entity = none)

/-- Where the name of a column comes from. -/
inductive Column.NamedIn (s : Schema) (c : Column) : Prop where
  | field {e : Entity} {f : Field} (he : e ∈ s.toList)
      (hf : f ∈ e.primitiveFields) (hname : c.name = columnName f.name)
      (hplain : c.references = none)
  | numbered (h : c = numberedKey)
  | foreign {name : String} (hname : c.name = foreignKeyName name)

section Named

variable {s : Schema} {d₀ d : Draft} {as : List (Entity × Field × Association)}
  {qs : List Request} {rels : List Relation} {k : String} {t : Table}
  {c : Column}

/-- After columns were added, there are old ones and such as have the name of
one that was added. -/
theorem mem_addAll :
    ∀ {new cols made : List Column}, addAll new cols = some made →
      c ∈ made → c ∈ cols ∨ ∃ x ∈ new, c.name = x.name
  | [], cols, made, h, hc => by
      cases h
      exact .inl hc
  | x :: new, cols, made, h, hc => by
      obtain ⟨cols₁, hstep, hrest⟩ := addAll_cons.mp h
      rcases mem_addAll hrest hc with hc | ⟨y, hy, hname⟩
      · rcases mem_addTo hstep hc with hold | rfl | ⟨old, -, hname, -, rfl⟩
        · exact .inl hold
        · exact .inr ⟨c, List.mem_cons_self, rfl⟩
        · -- what was merged has the name of both
          exact .inr ⟨x, List.mem_cons_self, hname⟩
      · exact .inr ⟨y, List.mem_cons_of_mem x hy, hname⟩

/-- What is asked for has the name of a foreign key. -/
theorem Fulfilled.name_columnsFor (h : Fulfilled s d₀ as qs d rels) :
    ∀ x ∈ columnsFor k qs, ∃ name, x.name = foreignKeyName name := by
  intro x hx
  obtain ⟨q, hq, -, hmem⟩ := mem_columnsFor.mp hx
  obtain ⟨a, -, ha⟩ := exists_left_of_forall₂ h.requests q hq
  cases request?_eq_some.mp ha with
  | belongsTo => exact ⟨_, by rw [List.mem_singleton.mp hmem]; rfl⟩
  | has => exact ⟨_, by rw [List.mem_singleton.mp hmem]; rfl⟩
  | belongsToMany =>
      rcases List.mem_cons.mp hmem with rfl | hmem
      · exact ⟨_, rfl⟩
      · exact ⟨_, by rw [List.mem_singleton.mp hmem]; rfl⟩

/-- What is laid out for an entity has the names of its fields, or is the
numbered key. -/
theorem IsEntityTable.named {e : Entity} (he : e ∈ s.toList)
    (h : IsEntityTable e t) (hc : c ∈ t.columns) : c.NamedIn s := by
  obtain ⟨cols, hcols, hown⟩ := h.ownColumns
  have hfield : c ∈ cols → c.NamedIn s := by
    intro hmem
    obtain ⟨f, hf, hstores⟩ := exists_left_of_forall₂ hcols c hmem
    exact .field he hf hstores.name hstores.references
  rw [hown] at hc
  split at hc
  · exact hfield hc
  · rcases List.mem_cons.mp hc with rfl | hc
    · exact .numbered rfl
    · exact hfield hc

/-- The names of the columns of a table. -/
theorem Fulfilled.column_named (h : Fulfilled s d₀ as qs d rels)
    (hlaid : LaidOut s.toList d₀) (ht : d.tables.get? k = some t)
    (hc : c ∈ t.columns) : c.NamedIn s := by
  have hcolumns := h.columns k
  rw [tableAt_of_get? ht] at hcolumns
  rcases mem_addAll hcolumns hc with hold | ⟨x, hx, hname⟩
  · -- the column was laid out, and only tables of entities are
    unfold Draft.tableAt at hold
    cases ht₀ : d₀.tables.get? k with
    | none =>
        rw [ht₀] at hold
        cases hold
    | some t₀ =>
        rw [ht₀] at hold
        obtain ⟨-, e, he, hentity⟩ := hlaid.table k t₀ ht₀
        exact hentity.named he hold
  · obtain ⟨name, hforeign⟩ := h.name_columnsFor x hx
    exact .foreign (hname.trans hforeign)

/-- A table that is asked for and was not laid out is a join table. -/
theorem Fulfilled.joined_of_new (h : Fulfilled s d₀ as qs d rels)
    (hlaid : LaidOut s.toList d₀) (hnone : d₀.tables.get? k = none)
    {q : Request} (hq : q ∈ qs) (hk : q.table = k) :
    ∃ a b, k = a ++ "_" ++ b := by
  obtain ⟨a, -, ha⟩ := exists_left_of_forall₂ h.requests q hq
  -- the tables of entities were laid out
  have hlaidOut : ∀ n, d₀.entityTables.get? n ≠ some k := by
    intro n hn
    obtain ⟨t₀, ht₀, -⟩ := hlaid.entity n k hn
    rw [hnone] at ht₀
    cases ht₀
  subst hk
  cases request?_eq_some.mp ha with
  | belongsTo _ htable => exact absurd htable (hlaidOut _)
  | has _ _ _ htable => exact absurd htable (hlaidOut _)
  | belongsToMany _ _ _ htable =>
      dsimp only
      rw [htable]
      exact joinNameOf_eq ..

/-- The name of a table. -/
theorem Fulfilled.table_named (h : Fulfilled s d₀ as qs d rels)
    (hd : d.Sound) (hlaid : LaidOut s.toList d₀)
    (ht : d.tables.get? k = some t) : t.NamedIn s := by
  have hname := hd.stored k t ht
  cases ht₀ : d₀.tables.get? k with
  | none =>
      -- a table that was not laid out was asked for
      rcases (h.present k).mp ⟨t, ht⟩ with ⟨t₀, hsome⟩ | ⟨q, hq, hk⟩
      · rw [ht₀] at hsome
        cases hsome
      · obtain ⟨a, b, hjoined⟩ := h.joined_of_new hlaid ht₀ hq hk
        exact .join (hname.trans hjoined) (h.entity_of_new ht₀ ht)
  | some t₀ =>
      obtain ⟨hstored, e, he, hentity⟩ := hlaid.table k t₀ ht₀
      have howner := h.entity k
      rw [tableAt_of_get? ht, tableAt_of_get? ht₀] at howner
      exact .entity he (hname.trans (hstored.symm.trans hentity.name))
        (howner.trans hentity.entity)

end Named

/-- The tables and columns of a model are named after what they store. -/
theorem build_named {s : Schema} {m : Model} (h : build s = .ok m) :
    ∀ k t, (k, t) ∈ m.tables.entries → k = t.name ∧ t.NamedIn s ∧
      ∀ c ∈ t.columns, c.NamedIn s ∧
        (t.entity = none → c.references.isSome = true) := by
  obtain ⟨d₀, qs, d, hlaid, htables, hsound, hful⟩ := build_fulfilled h
  intro k t hmem
  rw [htables, OrderedMap.mem_entries_iff] at hmem
  refine ⟨(hsound.stored k t hmem).symm, hful.table_named hsound hlaid hmem,
    fun c hc => ⟨hful.column_named hlaid hmem hc, fun hnone => ?_⟩⟩
  exact ((hsound.table k t hmem).foreign c hc
    (.inr (Table.isJoinTable_iff.mpr hnone))).references_isSome

/-! ## §3. Empty names. -/

/-- All tables and columns of the model have a name. -/
def Model.NamesNonempty (m : Model) : Prop :=
  ∀ k t, (k, t) ∈ m.tables.entries →
    k ≠ "" ∧ t.name ≠ "" ∧ ∀ c ∈ t.columns, c.name ≠ ""

/-- The plural of every entity and the name of every field that is stored in
a column have a letter or a digit. -/
structure NamesHaveWords (s : Schema) : Prop where
  plurals : ∀ e ∈ s.toList, HasWords e.pluralName
  fields : ∀ e ∈ s.toList, ∀ f ∈ e.primitiveFields, HasWords f.name

section Names

variable {s : Schema} {m : Model} {t : Table} {c : Column}

theorem Table.NamedIn.ne_empty (h : t.NamedIn s)
    (hwords : ∀ e ∈ s.toList, t.entity = some e.name →
      HasWords e.pluralName) : t.name ≠ "" := by
  cases h with
  | @entity e he hname hentity =>
      rw [hname]
      intro hempty
      exact (snakeCase_eq_empty e.pluralName).mp hempty (hwords e he hentity)
  | join hname =>
      rw [hname]
      exact joined_ne_empty _ _

theorem Column.NamedIn.ne_empty (h : c.NamedIn s)
    (hwords : c.references = none → ∀ e ∈ s.toList,
      ∀ f ∈ e.primitiveFields, HasWords f.name) : c.name ≠ "" := by
  cases h with
  | @field e f he hf hname hplain =>
      rw [hname]
      intro hempty
      exact (snakeCase_eq_empty f.name).mp hempty (hwords hplain e he f hf)
  | numbered h =>
      rw [h]
      decide
  | foreign hname =>
      rw [hname]
      exact foreignKeyName_ne_empty _

/-- The names of a model are those of its entities and fields among others. -/
theorem namesHaveWords_of_nonempty (h : build s = .ok m)
    (hnames : m.NamesNonempty) : NamesHaveWords s := by
  obtain ⟨own, joins, hfirst⟩ := build_entitiesFirst h
  -- every entity is stored in a table of the model, which has a name
  have htable : ∀ e ∈ s.toList, ∃ t : Table, t.Stores e ∧ t.name ≠ "" ∧
      ∀ c ∈ t.columns, c.name ≠ "" := by
    intro e he
    obtain ⟨⟨k, t⟩, hmem, -, hstores⟩ :=
      exists_right_of_forall₂ hfirst.own e he
    have hentry : (k, t) ∈ m.tables.entries := by
      rw [hfirst.entries]
      exact List.mem_append_left _ hmem
    exact ⟨t, hstores, (hnames k t hentry).2⟩
  constructor
  · intro e he
    obtain ⟨t, hstores, hname, -⟩ := htable e he
    rw [hstores.name] at hname
    exact Classical.not_not.mp fun hno =>
      hname ((snakeCase_eq_empty _).mpr hno)
  · intro e he f hf
    obtain ⟨t, hstores, -, hcolumns⟩ := htable e he
    obtain ⟨own, foreign, hsplit, ⟨cols, hcols, hown⟩, -⟩ := hstores.columns
    obtain ⟨c, hc, hstored⟩ := exists_right_of_forall₂ hcols f hf
    have hmem : c ∈ t.columns := by
      rw [hsplit, hown]
      apply List.mem_append_left
      split
      · exact hc
      · exact List.mem_cons_of_mem _ hc
    have hname := hcolumns c hmem
    rw [hstored.name] at hname
    exact Classical.not_not.mp fun hno =>
      hname ((snakeCase_eq_empty _).mpr hno)

/-- A model has no empty names just if the plurals and the names of the
primitive fields have words.  Join tables and foreign keys always have names,
and a plural that is made from a name has words, so that one without them was
declared. -/
theorem namesNonempty_iff {options : Options} {docs : List Sdl.Document}
    (hs : (elaborate options docs).result = .ok s) (hm : build s = .ok m) :
    (m.NamesNonempty ↔ NamesHaveWords s) ∧
      (∀ t ∈ m.tables.values, (t.entity = none → t.name ≠ "") ∧
        ∀ c ∈ t.columns, t.entity = none ∨ c.references.isSome = true →
          c.name ≠ "") ∧
      ∀ e ∈ s.toList, IsIdentifier e.name → ¬ HasWords e.pluralName →
        DeclaresPlural docs e.name e.pluralName := by
  have hnamed := build_named hm
  refine ⟨⟨namesHaveWords_of_nonempty hm, ?_⟩, ?_, ?_⟩
  · intro hwords k t hmem
    obtain ⟨hkey, htable, hcolumns⟩ := hnamed k t hmem
    have hname := htable.ne_empty fun e he _ => hwords.plurals e he
    exact ⟨hkey ▸ hname, hname, fun c hc =>
      (hcolumns c hc).1.ne_empty fun _ => hwords.fields⟩
  · intro t ht
    obtain ⟨k, hk⟩ := OrderedMap.mem_values_iff.mp ht
    obtain ⟨-, htable, hcolumns⟩ :=
      hnamed k t (OrderedMap.mem_entries_iff.mpr hk)
    refine ⟨fun hnone => htable.ne_empty fun e _ hentity => ?_, ?_⟩
    · rw [hnone] at hentity
      cases hentity
    · intro c hc hforeign
      have hsome : c.references.isSome = true :=
        hforeign.elim (hcolumns c hc).2 id
      refine (hcolumns c hc).1.ne_empty fun hplain => ?_
      rw [hplain] at hsome
      cases hsome
  · -- a plural that is made from the name has words
    intro e he hname hno
    rcases pluralName_of_elaborate hs e he with hdeclared | ⟨-, hmade⟩
    · exact hdeclared
    · rw [hmade] at hno
      exact absurd (hasWords_pluralOf hname) hno

end Names

/-- All tables and columns of the bookshelf have names. -/
theorem namesNonempty_iff_bookshelf :
    ∃ s m, (elaborate {} [bookshelf]).result = .ok s ∧ build s = .ok m ∧
      NamesHaveWords s ∧ m.NamesNonempty := by
  have hrun : (modelOf [bookshelf]).map (fun sm =>
      sm.1.toList.all fun e => hasWords e.pluralName.toList &&
        e.primitiveFields.all fun f => hasWords f.name.toList) =
      some true := by decide +kernel
  obtain ⟨⟨s, m⟩, hmodel, hall⟩ := Option.map_eq_some_iff.mp hrun
  obtain ⟨hs, hm⟩ := modelOf_eq_some.mp hmodel
  simp only [List.all_eq_true, Bool.and_eq_true] at hall
  have hwords : NamesHaveWords s :=
    ⟨fun e he => (hall e he).1, fun e he => (hall e he).2⟩
  exact ⟨s, m, hs, hm, hwords, (namesNonempty_iff hs hm).1.mpr hwords⟩

/-! ## §4. A plural without words. -/

/-- A book that declares an exclamation mark as its plural. -/
def shoutedBook : Sdl.Document where
  definitions := [objectType "Book" "!" [plainField "id" "ID"]]

/-- Not every table has a name. -/
theorem names_not_nonempty :
    ∃ s m, (elaborate {} [shoutedBook]).result = .ok s ∧ build s = .ok m ∧
      ¬ m.NamesNonempty := by
  have hrun : (modelOf [shoutedBook]).map (fun sm => sm.2.tables.keys) =
      some [""] := by decide +kernel
  obtain ⟨⟨s, m⟩, hmodel, hkeys⟩ := Option.map_eq_some_iff.mp hrun
  obtain ⟨hs, hm⟩ := modelOf_eq_some.mp hmodel
  refine ⟨s, m, hs, hm, fun hnames => ?_⟩
  obtain ⟨⟨k, t⟩, hmem, hk⟩ := exists_of_map_eq hkeys List.mem_cons_self
  exact (hnames k t hmem).1 hk

end SchemaTables.Storage
