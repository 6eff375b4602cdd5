/-
  SchemaTables.Proofs.Storage.Appending
  ─────────────────────────────────────
  **AN ENTITY THAT ONLY BELONGS TO OTHERS.**

  Let a schema be stored with and without one more entity at its end, all of
  whose associations are `belongsTo`.  Then the model with it is the one
  without it and more: the table of the entity, at some place among the
  others, and its relations, behind all others (`build_add`).

  Both runs make the same requests for the entities that both schemas have,
  because nothing that these look up is the new entity: an association to it
  would have been an error without it (`Asks.add`).  The new entity asks for
  columns in its own table only, and no other association does, so that all
  other tables are made by the same requests.
-/
import SchemaTables.Proofs.Elaboration.Keyed
import SchemaTables.Proofs.Storage.Requests
import SchemaTables.Proofs.Storage.TableOrder

namespace SchemaTables

/-! ## §1. One more entity. -/

/-- The schema with the entity `e` at its end, or in the place of the one
under its name. -/
def Schema.add (s : Schema) (e : Entity) : Schema :=
  ⟨s.entities.insert e.name e⟩

section Add

variable {s : Schema} {e : Entity}

theorem Schema.toList_add (h : s.get? e.name = none) :
    (s.add e).toList = s.toList ++ [e] :=
  OrderedMap.values_insert_of_fresh h

theorem Schema.get?_add_of_ne {n : String} (h : n ≠ e.name) :
    (s.add e).get? n = s.get? n :=
  OrderedMap.get?_insert_of_ne h.symm

theorem Schema.associations_add (h : s.get? e.name = none) :
    (s.add e).associations =
      s.associations ++ e.associations.map fun a => (e, a.1, a.2) := by
  unfold Schema.associations
  rw [Schema.toList_add h, List.flatMap_append, List.flatMap_singleton]

end Add

namespace Storage

open Elaboration

/-! ## §2. What is looked up. -/

/-- The draft `d'` has one more table than `d`, that of the entity `e`. -/
structure Draft.Adds (d d' : Draft) (e : Entity) : Prop where
  unknown : d.entityTables.get? e.name = none
  free : d.tables.get? (tableName e) = none
  others : ∀ n, n ≠ e.name → d'.entityTables.get? n = d.entityTables.get? n
  own : d'.entityTables.get? e.name = some (tableName e)
  tables : ∀ k, k ≠ tableName e → d'.tables.get? k = d.tables.get? k
  table : ∃ t, d'.tables.get? (tableName e) = some t ∧ IsEntityTable e t

section Lookups

variable {s : Schema} {e : Entity} {d d' : Draft}

/-- The layout of the larger schema is the one of the smaller and the table of
the new entity. -/
theorem layOut_add (hkeyed : s.EntitiesKeyed) (hnew : s.get? e.name = none)
    (h : layOut s = .ok d) (h' : layOut (s.add e) = .ok d') :
    d.Adds d' e := by
  unfold layOut at h'
  rw [Schema.toList_add hnew, List.foldlM_append] at h'
  change (layOut s >>= fun d => [e].foldlM layEntity d) = .ok d' at h'
  rw [bind_of_ok h, List.foldlM_cons, bind_eq_ok] at h'
  obtain ⟨d₁, hlay, h'⟩ := h'
  rw [List.foldlM_nil] at h'
  cases h'
  unfold layEntity at hlay
  rw [bind_eq_ok] at hlay
  obtain ⟨t, ht, hlay⟩ := hlay
  have htable := entityTable_spec ht
  obtain ⟨hfree, rfl⟩ := addEntityTable_eq_ok hlay
  rw [htable.name] at hfree
  refine ⟨?_, hfree, ?_, ?_, ?_, t, ?_, htable⟩
  · -- an entity that has a table is one of the schema
    rw [Option.eq_none_iff_forall_ne_some]
    intro k hk
    obtain ⟨e', he', hname, -⟩ := (layOut_spec h).entity_of_table hk
    have hget := hkeyed.get?_name he'
    rw [hname, hnew] at hget
    cases hget
  · exact fun n hn => OrderedMap.get?_insert_of_ne hn.symm
  · rw [← htable.name]
    exact OrderedMap.get?_insert_self _ _ _
  · intro k hk
    rw [← htable.name] at hk
    exact OrderedMap.get?_insert_of_ne hk.symm
  · rw [← htable.name]
    exact OrderedMap.get?_insert_self _ _ _

namespace Draft.Adds

theorem tableAt (h : d.Adds d' e) {k : String} (hk : k ≠ tableName e) :
    d'.tableAt k = d.tableAt k := by
  unfold Draft.tableAt
  rw [h.tables k hk]

/-- What has a table is not the new entity. -/
theorem ne_of_entityTable (h : d.Adds d' e) {n k : String}
    (hk : d.entityTables.get? n = some k) : n ≠ e.name := by
  intro hn
  rw [hn, h.unknown] at hk
  cases hk

theorem entityTable (h : d.Adds d' e) {n k : String}
    (hk : d.entityTables.get? n = some k) :
    d'.entityTables.get? n = some k := by
  rw [h.others n (h.ne_of_entityTable hk)]
  exact hk

theorem ne_of_primaryKey? (h : d.Adds d' e) (hd : d.Sound) {n : String}
    {key : ColumnRef} {type : ColumnType}
    (hkey : d.primaryKey? n = some (key, type)) : n ≠ e.name :=
  h.ne_of_entityTable (hd.isKeyOf hkey).table

/-- A table that is there is not the new one. -/
theorem ne_of_table (h : d.Adds d' e) {k : String} {t : Table}
    (ht : d.tables.get? k = some t) : k ≠ tableName e := by
  intro hk
  rw [hk, h.free] at ht
  cases ht

theorem primaryKey? (h : d.Adds d' e) (hd : d.Sound) (hd' : d'.Sound)
    {n : String} {key : ColumnRef} {type : ColumnType}
    (hkey : d.primaryKey? n = some (key, type)) :
    d'.primaryKey? n = some (key, type) := by
  have hof := hd.isKeyOf hkey
  obtain ⟨t, c, ht, hkeyIn⟩ := hof.key
  rw [hd'.primaryKey?_iff]
  refine ⟨h.entityTable hof.table, t, c, ?_, hkeyIn⟩
  rw [h.tables _ (h.ne_of_table ht)]
  exact ht

end Draft.Adds

variable {f : Field}

theorem inverses_add {e₁ : Entity} (hf : f.baseType ≠ e.name)
    (test : Association → Bool) :
    inverses (s.add e) e₁ f test = inverses s e₁ f test := by
  unfold inverses
  rw [Schema.get?_add_of_ne hf]

/-- An association that is stored without the new entity asks for the same
with it. -/
theorem Asks.add {a : Entity × Field × Association} {q : Request}
    (h : Asks s d a q) (hadds : d.Adds d' e) (hd : d.Sound)
    (hd' : d'.Sound) : Asks (s.add e) d' a q := by
  cases h with
  | belongsTo hkey htable =>
      exact .belongsTo (hadds.primaryKey? hd hd' hkey)
        (hadds.entityTable htable)
  | has hkind hkey hname htable =>
      refine .has hkind (hadds.primaryKey? hd hd' hkey) ?_
        (hadds.entityTable htable)
      unfold foreignName at hname ⊢
      rw [inverses_add (hadds.ne_of_entityTable htable)]
      exact hname
  | belongsToMany hkey htarget hshared htable =>
      refine .belongsToMany (hadds.primaryKey? hd hd' hkey)
        (hadds.primaryKey? hd hd' htarget) ?_ htable
      unfold sharesJoinTable at hshared ⊢
      rw [inverses_add (hadds.ne_of_primaryKey? hd htarget)]
      exact hshared

/-- The new entity asks for columns in its own table. -/
theorem Draft.Adds.own_asks (h : d.Adds d' e) {q : Request}
    (hq : Asks s d' (e, f, .belongsTo) q) :
    q.table = tableName e ∧ ∃ key, q.relation =
      relationOf (e, f, .belongsTo)
        (.manyToOne ⟨tableName e, foreignKeyName f.name⟩ key) := by
  cases hq with
  | belongsTo _ htable =>
      rw [h.own] at htable
      cases htable
      exact ⟨rfl, _, rfl⟩
  | has hkind => cases hkind

end Lookups

/-! ## §3. Two runs. -/

/-- The model `m'` is `m` with the table and the relations of `e`, all of whose
associations are `belongsTo`. -/
structure Model.Adds (m m' : Model) (e : Entity) : Prop where
  tables : ∃ before after t, m.tables.entries = before ++ after ∧
    m'.tables.entries = before ++ (tableName e, t) :: after ∧
    t.name = tableName e ∧ t.entity = some e.name
  relations : ∃ rels, m'.relations = m.relations ++ rels ∧
    List.Forall₂ (fun a r => ∃ key, r = relationOf (e, a.1, a.2)
      (.manyToOne ⟨tableName e, foreignKeyName a.1.name⟩ key))
      e.associations rels

/-- The schema `s` is stored as `d` and `s.add e` as `d'`, from the layouts
`d₀` and `d₀'`: the second by the requests of the first and those of `e`. -/
structure TwoRuns (s : Schema) (e : Entity) (d₀ d₀' d d' : Draft)
    (qs new : List Request) (rels rels' : List Relation) : Prop where
  laid : LaidOut s.toList d₀
  adds : d₀.Adds d₀' e
  run : Fulfilled s d₀ s.associations qs d rels
  run' : Fulfilled (s.add e) d₀' (s.add e).associations (qs ++ new) d' rels'
  sound : d.Sound
  sound' : d'.Sound
  own : List.Forall₂ (fun a q => q.table = tableName e ∧ ∃ key, q.relation =
    relationOf (e, a.1, a.2)
      (.manyToOne ⟨tableName e, foreignKeyName a.1.name⟩ key))
    e.associations new

theorem twoRuns_of_build {s : Schema} {e : Entity} {m m' : Model}
    (hkeyed : s.EntitiesKeyed) (hnew : s.get? e.name = none)
    (hbelongs : ∀ a ∈ e.associations, a.2 = .belongsTo)
    (h : build s = .ok m) (h' : build (s.add e) = .ok m') :
    ∃ d₀ d₀' d d' qs new, m.tables = d.tables ∧ m'.tables = d'.tables ∧
      TwoRuns s e d₀ d₀' d d' qs new m.relations m'.relations := by
  obtain ⟨d, rels, hrun, rfl⟩ := build_eq_ok h
  obtain ⟨d', rels', hrun', rfl⟩ := build_eq_ok h'
  obtain ⟨hsound, d₀, qs, hlay, hful⟩ := linkAll_fulfilled hrun
  obtain ⟨hsound', d₀', qs', hlay', hful'⟩ := linkAll_fulfilled hrun'
  have hlaid := layOut_spec hlay
  have hlaid' := layOut_spec hlay'
  have hadds := layOut_add hkeyed hnew hlay hlay'
  have hrequests := hful'.requests
  rw [Schema.associations_add hnew] at hrequests
  have hsame : s.associations.filterMap (request? (s.add e) d₀') = qs := by
    refine (eq_filterMap_of_forall₂ (hful.requests.imp fun a q hq => ?_)).symm
    rw [request?_eq_some] at hq ⊢
    exact hq.add hadds hlaid.sound hlaid'.sound
  have hqs' : qs' = qs ++
      e.associations.filterMap fun a => request? (s.add e) d₀' (e, a.1, a.2) := by
    rw [eq_filterMap_of_forall₂ hrequests, List.filterMap_append, hsame,
      List.filterMap_map]
    rfl
  subst hqs'
  refine ⟨d₀, d₀', d, d', qs, _, rfl, rfl, hlaid, hadds, hful, hful', hsound,
    hsound', ?_⟩
  apply forall₂_filterMap
  intro a ha
  obtain ⟨q, -, hq⟩ := exists_right_of_forall₂ hrequests (e, a.1, a.2)
    (List.mem_append_right _ (List.mem_map_of_mem ha))
  refine ⟨q, hq, ?_⟩
  obtain ⟨f, kind⟩ := a
  cases hbelongs (f, kind) ha
  exact hadds.own_asks (request?_eq_some.mp hq)

namespace TwoRuns

variable {s : Schema} {e : Entity} {d₀ d₀' d d' : Draft}
  {qs new : List Request} {rels rels' : List Relation}

/-- The new table is the one of the entity. -/
theorem exists_table (h : TwoRuns s e d₀ d₀' d d' qs new rels rels') :
    ∃ t, d'.tables.get? (tableName e) = some t ∧ t.name = tableName e ∧
      t.entity = some e.name := by
  obtain ⟨t₀, ht₀, hlaidOut⟩ := h.adds.table
  obtain ⟨t, ht⟩ := (h.run'.present _).mpr (.inl ⟨t₀, ht₀⟩)
  have hentity := h.run'.entity (tableName e)
  rw [tableAt_of_get? ht, tableAt_of_get? ht₀, hlaidOut.entity] at hentity
  exact ⟨t, ht, h.sound'.stored _ t ht, hentity⟩

/-- No other association is stored in it. -/
theorem table_ne (h : TwoRuns s e d₀ d₀' d d' qs new rels rels')
    {q : Request} (hq : q ∈ qs) : q.table ≠ tableName e := by
  intro hname
  obtain ⟨a, -, ha⟩ := exists_left_of_forall₂ h.run.requests q hq
  -- the table of an entity is there before
  have hentity : ∀ {n : String}, d₀.entityTables.get? n = some q.table →
      False := by
    intro n hn
    obtain ⟨t, ht, -⟩ := h.laid.sound.entity n _ hn
    exact h.adds.ne_of_table ht hname
  -- and a join table would have the columns of one
  have hplain : ∀ c ∈ q.columns, c.isPrimaryKey = false := by
    obtain ⟨t, ht, -, hn⟩ := h.exists_table
    rw [← hname] at ht
    exact h.run'.not_isPrimaryKey (List.mem_append_left _ hq) ht
      (Table.not_isJoinTable hn)
  cases request?_eq_some.mp ha with
  | belongsTo _ htable => exact hentity htable
  | has _ _ _ htable => exact hentity htable
  | belongsToMany => cases hplain _ List.mem_cons_self

theorem own_table (h : TwoRuns s e d₀ d₀' d d' qs new rels rels')
    {q : Request} (hq : q ∈ new) : q.table = tableName e := by
  obtain ⟨a, -, hown, -⟩ := exists_left_of_forall₂ h.own q hq
  exact hown

/-- Another table is the same after both runs. -/
theorem get?_eq (h : TwoRuns s e d₀ d₀' d d' qs new rels rels') {k : String}
    (hk : k ≠ tableName e) : d'.tables.get? k = d.tables.get? k := by
  have hcolumnsFor : columnsFor k (qs ++ new) = columnsFor k qs := by
    have hnone : columnsFor k new = [] := by
      rw [List.eq_nil_iff_forall_not_mem]
      intro c hc
      obtain ⟨q, hq, htable, -⟩ := mem_columnsFor.mp hc
      exact hk (htable.symm.trans (h.own_table hq))
    unfold columnsFor at hnone ⊢
    rw [List.filter_append, List.flatMap_append, hnone, List.append_nil]
  have hpresent : (∃ t, d'.tables.get? k = some t) ↔
      ∃ t, d.tables.get? k = some t := by
    rw [h.run'.present, h.run.present, h.adds.tables k hk]
    refine or_congr_right ⟨?_, ?_⟩
    · intro hx
      obtain ⟨q, hq, htable⟩ := hx
      rcases List.mem_append.mp hq with hq | hq
      · exact ⟨q, hq, htable⟩
      · exact absurd (htable.symm.trans (h.own_table hq)) hk
    · intro hx
      obtain ⟨q, hq, htable⟩ := hx
      exact ⟨q, List.mem_append_left _ hq, htable⟩
  have hcolumns : (d'.tableAt k).columns = (d.tableAt k).columns := by
    have hmade := h.run'.columns k
    rw [hcolumnsFor, h.adds.tableAt hk, h.run.columns k] at hmade
    exact (Option.some.inj hmade).symm
  have hentity : (d'.tableAt k).entity = (d.tableAt k).entity := by
    rw [h.run'.entity, h.run.entity, h.adds.tableAt hk]
  cases ht' : d'.tables.get? k with
  | some t' =>
      obtain ⟨t, ht⟩ := hpresent.mp ⟨t', ht'⟩
      rw [tableAt_of_get? ht', tableAt_of_get? ht] at hcolumns hentity
      have hname : t'.name = t.name := by
        rw [h.sound'.stored k t' ht', h.sound.stored k t ht]
      rw [ht]
      obtain ⟨name, entity, columns⟩ := t
      obtain ⟨name', entity', columns'⟩ := t'
      cases hname
      cases hentity
      cases hcolumns
      rfl
  | none =>
      cases ht : d.tables.get? k with
      | none => rfl
      | some t =>
          obtain ⟨t', hsome⟩ := hpresent.mpr ⟨t, ht⟩
          rw [ht'] at hsome
          cases hsome

/-- The smaller model has no table of this name. -/
theorem get?_none (h : TwoRuns s e d₀ d₀' d d' qs new rels rels') :
    d.tables.get? (tableName e) = none := by
  rw [Option.eq_none_iff_forall_ne_some]
  intro t ht
  rcases (h.run.present _).mp ⟨t, ht⟩ with ⟨t₀, ht₀⟩ | ⟨q, hq, hname⟩
  · exact h.adds.ne_of_table ht₀ rfl
  · exact h.table_ne hq hname

theorem relations_eq (h : TwoRuns s e d₀ d₀' d d' qs new rels rels') :
    rels' = rels ++ new.map Request.relation := by
  rw [h.run'.relations, h.run.relations, List.map_append]

end TwoRuns

/-! ## §4. The model. -/

/-- An entity that only belongs to others, put at the end of a schema, adds
its table and its relations and changes nothing else. -/
theorem build_add {s : Schema} {e : Entity} {m m' : Model}
    (hkeyed : s.EntitiesKeyed) (hnew : s.get? e.name = none)
    (hbelongs : ∀ a ∈ e.associations, a.2 = .belongsTo)
    (h : build s = .ok m) (h' : build (s.add e) = .ok m') :
    m.Adds m' e := by
  obtain ⟨d₀, d₀', d, d', qs, new, hm, hm', hruns⟩ :=
    twoRuns_of_build hkeyed hnew hbelongs h h'
  obtain ⟨t, ht, hname, hentity⟩ := hruns.exists_table
  have hlinks : tableName e ∉ m.relations.map fun r => r.link.table := by
    rw [hruns.run.linkTables]
    intro hmem
    obtain ⟨q, hq, htable⟩ := List.mem_map.mp hmem
    exact hruns.table_ne hq htable
  have hlinks' : (m'.relations.map fun r => r.link.table) =
      (m.relations.map fun r => r.link.table) ++ new.map Request.table := by
    rw [hruns.run'.linkTables, hruns.run.linkTables, List.map_append]
  obtain ⟨more, hmore⟩ := addNames_eq_append
    (m.relations.map fun r => r.link.table) (s.toList.map tableName)
  -- the new name stands between those of the entities and the others
  have hkeys := (build_keys h).trans hmore
  have hkeys' : m'.tables.keys =
      s.toList.map tableName ++ tableName e :: more := by
    rw [build_keys h', Schema.toList_add hnew, List.map_append, hlinks',
      addNames_append]
    have hfirst : addNames (s.toList.map tableName ++ [tableName e])
        (m.relations.map fun r => r.link.table) =
          s.toList.map tableName ++ tableName e :: more := by
      apply addNames_insert hlinks
      rw [List.append_nil]
      exact hmore
    show addNames (addNames (_ ++ [tableName e]) _) _ = _
    rw [hfirst]
    apply addNames_of_subset
    intro n hn
    obtain ⟨q, hq, rfl⟩ := List.mem_map.mp hn
    rw [hruns.own_table hq]
    simp
  have hother : ∀ k ∈ m.tables.keys, m'.tables.get? k = m.tables.get? k := by
    intro k hk
    rw [hm, hm']
    apply hruns.get?_eq
    intro heq
    obtain ⟨u, hu⟩ := OrderedMap.mem_keys_iff.mp hk
    rw [hm, heq, hruns.get?_none] at hu
    cases hu
  constructor
  · rw [← hm'] at ht
    obtain ⟨before, after, hentries, hentries'⟩ :=
      OrderedMap.entries_of_keys hkeys hkeys' ht hother
    exact ⟨before, after, t, hentries, hentries', hname, hentity⟩
  · refine ⟨_, hruns.relations_eq, ?_⟩
    rw [List.forall₂_map_right_iff]
    exact hruns.own.imp fun a q hq => hq.2

/-- Reviews, each of a book. -/
def review : Entity where
  name := "Review"
  pluralName := "Reviews"
  fields := .ofList
    [ ("text", ⟨"text", "String", false, false, none⟩),
      ("book", ⟨"book", "Book", false, false, some .belongsTo⟩) ]

/-- The bookshelf with reviews. -/
theorem build_add_bookshelf : ∃ s m m',
    (elaborate {} [bookshelf]).result = .ok s ∧ s.EntitiesKeyed ∧
      s.get? review.name = none ∧
      (∀ a ∈ review.associations, a.2 = .belongsTo) ∧ build s = .ok m ∧
      build (s.add review) = .ok m' ∧ m.Adds m' review := by
  have hrun : (modelOf [bookshelf]).bind (fun sm =>
      (build (sm.1.add review)).toOption.map fun _ =>
        decide (sm.1.get? review.name = none)) = some true := by
    decide +kernel
  obtain ⟨⟨s, m⟩, hmodel, hadd⟩ := Option.bind_eq_some_iff.mp hrun
  obtain ⟨m', hm', hnew⟩ := Option.map_eq_some_iff.mp hadd
  obtain ⟨hs, hm⟩ := modelOf_eq_some.mp hmodel
  rw [toOption_eq_some] at hm'
  have hnew := of_decide_eq_true hnew
  have hkeyed := (wellKeyed_of_elaborate hs).entitiesKeyed
  have hbelongs : ∀ a ∈ review.associations, a.2 = .belongsTo := by decide
  exact ⟨s, m, m', hs, hkeyed, hnew, hbelongs, hm, hm',
    build_add hkeyed hnew hbelongs hm hm'⟩

end Storage

end SchemaTables
