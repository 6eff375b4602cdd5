/-
  SchemaTables.Proofs.Storage.Build
  ─────────────────────────────────
  **STORING ALL ASSOCIATIONS, ONE AFTER ANOTHER.**

  A model is built by laying out the tables and storing the associations in
  order.  Up to any point of that run (`Running`)

      * the draft is sound and has grown from the layout,
      * there is one relation for each association that is done, in order,
        and it says how the draft now holds the association.

  `linkAll_invariant` is the induction over the run: what holds of the layout
  and is kept by each of the three steps holds wherever the run has come to.
-/
import SchemaTables.Elaboration.Elaborate
import SchemaTables.Proofs.Schema
import SchemaTables.Proofs.Storage.Linking
import SchemaTables.Storage.Build

namespace SchemaTables.Storage

/-! ## §1. One more association. -/

/-- The table whose columns an association is stored in. -/
def Link.table : Link → String
  | .manyToOne column _ => column.table
  | .oneToMany _ column => column.table
  | .manyToMany table _ _ => table

/-- The relation that records the link `l` of an association. -/
def relationOf (a : Entity × Field × Association) (l : Link) : Relation where
  entity := a.1.name
  field := a.2.1.name
  kind := a.2.2
  target := a.2.1.baseType
  link := l

/-- The relation `r` says how the draft `d` holds the association `a`. -/
structure Records (s : Schema) (d : Draft)
    (a : Entity × Field × Association) (r : Relation) : Prop where
  eq : r = relationOf a r.link
  stored : Stored s d a.1 a.2.1 a.2.2 r.link

theorem linkStep_eq_ok {s : Schema} {st st' : Draft × List Relation}
    {a : Entity × Field × Association} (h : linkStep s st a = .ok st') :
    ∃ d' l, Linked s st.1 a.1 a.2.1 a.2.2 d' l ∧
      st' = (d', st.2 ++ [relationOf a l]) := by
  unfold linkStep at h
  rw [bind_eq_ok] at h
  obtain ⟨⟨d', l⟩, hlink, h⟩ := h
  cases h
  exact ⟨d', l, linked_of_link hlink, rfl⟩

/-! ## §2. The run. -/

/-- The draft and the relations once the associations `as` are stored. -/
def linkAll (s : Schema) (as : List (Entity × Field × Association)) :
    Except StorageError (Draft × List Relation) := do
  let d ← layOut s
  as.foldlM (linkStep s) (d, [])

/-- Where the run has come to when the associations `done` are stored. -/
structure Running (s : Schema) (done : List (Entity × Field × Association))
    (d : Draft) (rels : List Relation) : Prop where
  sound : d.Sound
  grown : ∃ d₀, LaidOut s.toList d₀ ∧ d₀.Grows d
  records : List.Forall₂ (Records s d) done rels

section Run

variable {s : Schema} {as : List (Entity × Field × Association)}
  {d : Draft} {rels : List Relation}

theorem Running.start {d₀ : Draft} (h : LaidOut s.toList d₀) :
    Running s [] d₀ [] :=
  ⟨h.sound, ⟨d₀, h, Draft.Grows.refl d₀⟩, .nil⟩

theorem Running.step {d' : Draft} {a : Entity × Field × Association}
    {l : Link} (h : Running s as d rels)
    (hlink : Linked s d a.1 a.2.1 a.2.2 d' l) :
    Running s (as ++ [a]) d' (rels ++ [relationOf a l]) := by
  have hgrows := hlink.grows h.sound
  obtain ⟨d₀, hlaid, hgrown⟩ := h.grown
  refine ⟨hlink.sound h.sound, ⟨d₀, hlaid, hgrown.trans hgrows⟩, ?_⟩
  -- earlier relations stay right, since the draft has only grown
  have hold : List.Forall₂ (Records s d') as rels :=
    h.records.imp fun a r hr => ⟨hr.eq, hr.stored.mono hgrows⟩
  have hnew : Records s d' a (relationOf a l) :=
    ⟨rfl, hlink.stored h.sound⟩
  exact List.rel_append hold (.cons hnew .nil)

/-- What holds of the layout and is kept by every step holds after the run. -/
theorem linkAll_invariant_from
    (P : List (Entity × Field × Association) → Draft → List Relation → Prop)
    (start : ∀ d₀, layOut s = .ok d₀ → P [] d₀ [])
    (step : ∀ done a d rels d' l, (∃ rest, as = done ++ a :: rest) →
      Running s done d rels → P done d rels →
      Linked s d a.1 a.2.1 a.2.2 d' l →
      P (done ++ [a]) d' (rels ++ [relationOf a l]))
    (run : linkAll s as = .ok (d, rels)) :
    Running s as d rels ∧ P as d rels := by
  unfold linkAll at run
  rw [bind_eq_ok] at run
  obtain ⟨d₀, hlay, run⟩ := run
  -- the step may use that the run is sound up to here
  apply foldlM_invariant
    (fun done st => Running s done st.1 st.2 ∧ P done st.1 st.2) _ _ run
  · exact ⟨Running.start (layOut_spec hlay), start d₀ hlay⟩
  · intro done a st st' hrest hinv hstep
    obtain ⟨d', l, hlink, rfl⟩ := linkStep_eq_ok hstep
    exact ⟨hinv.1.step hlink,
      step done a st.1 st.2 d' l hrest hinv.1 hinv.2 hlink⟩

/-- The same, where no more is needed of the layout than what it holds. -/
theorem linkAll_invariant
    (P : List (Entity × Field × Association) → Draft → List Relation → Prop)
    (start : ∀ d₀, LaidOut s.toList d₀ → P [] d₀ [])
    (step : ∀ done a d rels d' l, (∃ rest, as = done ++ a :: rest) →
      Running s done d rels → P done d rels →
      Linked s d a.1 a.2.1 a.2.2 d' l →
      P (done ++ [a]) d' (rels ++ [relationOf a l]))
    (run : linkAll s as = .ok (d, rels)) :
    Running s as d rels ∧ P as d rels :=
  linkAll_invariant_from P (fun d₀ hlay => start d₀ (layOut_spec hlay)) step
    run

/-- Where entities have distinct names, a table is the one of the entity that
it stores: tables that came later are join tables. -/
theorem Running.owner (h : Running s as d rels)
    (hnames : (s.toList.map Entity.name).Nodup) {k n : String} {t : Table}
    (ht : d.tables.get? k = some t) (hn : t.entity = some n) :
    d.entityTables.get? n = some k := by
  obtain ⟨d₀, hlaid, hgrown⟩ := h.grown
  obtain ⟨t₀, ht₀⟩ := hgrown.new k t ht (Table.not_isJoinTable hn)
  obtain ⟨t', ht', hgrows⟩ := hgrown.tables k t₀ ht₀
  rw [ht] at ht'
  cases ht'
  -- the table was laid out, for the entity that it still stores
  rw [hgrown.entityTables]
  exact hlaid.owner hnames k t₀ n ht₀ (hgrows.entity ▸ hn)

/-- In a well-keyed schema, the table of an entity is named after it. -/
theorem Running.entityTable_iff (h : Running s as d rels)
    (hkeyed : s.WellKeyed) {n k : String} :
    d.entityTables.get? n = some k ↔
      ∃ e, s.get? n = some e ∧ tableName e = k := by
  obtain ⟨d₀, hlaid, hgrown⟩ := h.grown
  rw [hgrown.entityTables]
  exact hlaid.entityTable_iff hkeyed.entitiesKeyed

/-- Two entities have two tables. -/
theorem Running.eq_of_tableName (h : Running s as d rels)
    (hkeyed : s.WellKeyed) {e e' : Entity} (he : e ∈ s.toList)
    (he' : e' ∈ s.toList) (hname : tableName e = tableName e') : e = e' := by
  have htable := (h.entityTable_iff hkeyed).mpr ⟨e, hkeyed.get?_name he, rfl⟩
  have htable' :=
    (h.entityTable_iff hkeyed).mpr ⟨e', hkeyed.get?_name he', rfl⟩
  obtain ⟨t, ht, hentity⟩ := h.sound.entity _ _ htable
  obtain ⟨t', ht', hentity'⟩ := h.sound.entity _ _ htable'
  rw [hname, ht'] at ht
  cases ht
  rw [hentity'] at hentity
  exact hkeyed.eq_of_name he he' (Option.some.inj hentity).symm

/-- The primary key of an entity of the schema is found. -/
theorem Running.keyFound (h : Running s as d rels) (hkeyed : s.WellKeyed)
    {n : String} {target : Entity} (hget : s.get? n = some target)
    (e : Entity) (f : Field) :
    ∃ key type, requireKey d e f n = .ok (key, type) ∧
      KeyIn d.tables key type ∧ key.table = tableName target := by
  have htable := (h.entityTable_iff hkeyed).mpr ⟨target, hget, rfl⟩
  obtain ⟨t, key, type, -, -, hkey⟩ := h.sound.lookups htable
  have hof := h.sound.isKeyOf hkey
  refine ⟨key, type, requireKey_eq_ok.mpr hkey, hof.key, ?_⟩
  rw [hof.table] at htable
  exact Option.some.inj htable

/-- The table of an entity of the schema is found. -/
theorem Running.tableFound (h : Running s as d rels)
    (hkeyed : s.WellKeyed) {n : String} {target : Entity}
    (hget : s.get? n = some target) (e : Entity) (f : Field) :
    ∃ t, requireTable d e f n = .ok t ∧ t.name = tableName target ∧
      d.tables.get? (tableName target) = some t := by
  have htable := (h.entityTable_iff hkeyed).mpr ⟨target, hget, rfl⟩
  obtain ⟨t, -, -, ht, hname, -⟩ := h.sound.lookups htable
  have hstored := (h.sound.entityTable ht).2.1
  rw [hname] at hstored
  exact ⟨t, requireTable_eq_ok.mpr ht, hname, hstored⟩

/-- The table of an entity has grown from the one that was laid out. -/
theorem Running.laidOut (h : Running s as d rels) (hkeyed : s.WellKeyed)
    {e : Entity} (he : e ∈ s.toList) :
    ∃ t₀ t, IsEntityTable e t₀ ∧ d.tables.get? (tableName e) = some t ∧
      t₀.Grows t := by
  have htable := (h.entityTable_iff hkeyed).mpr ⟨e, hkeyed.get?_name he, rfl⟩
  obtain ⟨d₀, hlaid, hgrown⟩ := h.grown
  rw [hgrown.entityTables] at htable
  obtain ⟨t₀, ht₀, hentity⟩ := hlaid.entity _ _ htable
  obtain ⟨-, e', he', hlaidOut⟩ := hlaid.table _ t₀ ht₀
  rw [hlaidOut.entity] at hentity
  have heq := hkeyed.eq_of_name he' he (Option.some.inj hentity)
  subst heq
  obtain ⟨t, ht, hgrows⟩ := hgrown.tables _ t₀ ht₀
  exact ⟨t₀, t, hlaidOut, ht, hgrows⟩

/-- The columns without a reference are those of the fields that are no
associations, and the numbered key. -/
theorem Running.plainColumn_iff (h : Running s as d rels)
    (hkeyed : s.WellKeyed) {e : Entity} (he : e ∈ s.toList) {t : Table}
    (ht : d.tables.get? (tableName e) = some t) {n : String}
    (hn : n ≠ keyField) :
    (∃ c, t.column? n = some c ∧ c.references = none) ↔
      ∃ f ∈ e.primitiveFields, columnName f.name = n := by
  obtain ⟨t₀, t', hlaidOut, ht', hgrows⟩ := h.laidOut hkeyed he
  rw [ht] at ht'
  cases ht'
  constructor
  · intro hx
    obtain ⟨c, hc, hnone⟩ := hx
    obtain ⟨hmem, hname⟩ := Table.of_column? hc
    obtain ⟨c₀, hc₀, hshape⟩ := hgrows.plain hmem hnone
    have hname₀ := (Column.eq_of_shape hshape).1.trans hname
    obtain ⟨f, hf, hfield⟩ :=
      hlaidOut.field_of_column hc₀ (by rw [hname₀]; exact hn)
    exact ⟨f, hf, hfield.trans hname₀⟩
  · intro hx
    obtain ⟨f, hf, rfl⟩ := hx
    obtain ⟨c, hc, hname⟩ := hlaidOut.column hf
    obtain ⟨c₀, hc₀⟩ := Table.exists_column? hc
    have hnone := hlaidOut.references c₀ (Table.of_column? hc₀).1
    rw [hname] at hc₀
    obtain ⟨c₁, hc₁, hshape⟩ := hgrows.column hc₀
    have href := (Column.eq_of_shape hshape).2.2.2
    exact ⟨c₁, hc₁, href.trans hnone⟩

theorem linkAll_running (run : linkAll s as = .ok (d, rels)) :
    Running s as d rels :=
  (linkAll_invariant (fun _ _ _ => True) (fun _ _ => trivial)
    (fun _ _ _ _ _ _ _ _ _ _ => trivial) run).1

end Run

/-! ## §3. The model. -/

theorem build_eq_ok {s : Schema} {m : Model} (h : build s = .ok m) :
    ∃ d rels, linkAll s s.associations = .ok (d, rels) ∧
      m = { tables := d.tables, relations := rels } := by
  unfold build at h
  rw [bind_eq_ok] at h
  obtain ⟨d₀, hlay, h⟩ := h
  rw [bind_eq_ok] at h
  obtain ⟨⟨d, rels⟩, hrun, h⟩ := h
  cases h
  refine ⟨d, rels, ?_, rfl⟩
  unfold linkAll
  rw [hlay]
  exact hrun

theorem mem_of_split {s : Schema} {a : Entity × Field × Association}
    {done rest : List (Entity × Field × Association)}
    (has : s.associations = done ++ a :: rest) :
    (∀ b ∈ done, b ∈ s.associations) ∧ a ∈ s.associations := by
  rw [has]
  exact ⟨fun b hb => List.mem_append_left _ hb, by simp⟩

/-- A step that fails is the answer of the whole run. -/
theorem build_eq_error {s : Schema} {a : Entity × Field × Association}
    {done rest : List (Entity × Field × Association)}
    {d : Draft} {rels : List Relation} {x : StorageError}
    (has : s.associations = done ++ a :: rest)
    (run : linkAll s done = .ok (d, rels))
    (fails : link s d a.1 a.2.1 a.2.2 = .error x) :
    build s = .error x := by
  unfold linkAll at run
  rw [bind_eq_ok] at run
  obtain ⟨d₀, hlay, run⟩ := run
  have hstep : linkStep s (d, rels) a = .error x := by
    unfold linkStep
    rw [fails]
    rfl
  unfold build
  rw [hlay, has]
  show ((done ++ a :: rest).foldlM (linkStep s) (d₀, []) >>= _) = _
  rw [foldlM_stops run hstep]
  rfl

/-! ## §4. Models of documents. -/

section Documents

open Sdl Elaboration

/-- The schema that documents declare, with its model. -/
def modelOf (docs : List Document) : Option (Schema × Model) := do
  let s ← (elaborate {} docs).result.toOption
  let m ← (build s).toOption
  return (s, m)

theorem modelOf_eq_some {docs : List Document} {s : Schema} {m : Model} :
    modelOf docs = some (s, m) ↔
      (elaborate {} docs).result = .ok s ∧ build s = .ok m := by
  unfold modelOf
  simp only [bind, Option.bind_eq_some_iff, toOption_eq_some]
  constructor
  · intro hx
    obtain ⟨s', hs, m', hm, heq⟩ := hx
    cases heq
    exact ⟨hs, hm⟩
  · intro hx
    obtain ⟨hs, hm⟩ := hx
    exact ⟨s, hs, m, hm, rfl⟩

/-- An object type with its plural. -/
def objectType (name plural : String) (fields : List FieldDefinition) :
    Definition :=
  .object {
    position := .start
    isExtension := false
    name := name
    directives := [⟨"plural", [("name", .string plural)]⟩]
    fields := fields }

/-- A field without a mark. -/
def plainField (name type : String) : FieldDefinition where
  position := .start
  description := none
  name := name
  type := .named type true
  directives := []

/-- A field that is marked with an association. -/
def associationTo (target name : String) (kind : Association) :
    FieldDefinition where
  position := .start
  description := none
  name := name
  type :=
    if kind.isMany then .list (.named target true) true
    else .named target true
  directives := [⟨kind.keyword, []⟩]

/-- Authors with their mentors, their books and the tags of these. -/
def bookshelf : Document where
  definitions :=
    [ objectType "Author" "Authors"
        [ associationTo "Author" "mentor" .belongsTo,
          associationTo "Book" "books" .hasMany ],
      objectType "Book" "Books"
        [ associationTo "Author" "author" .belongsTo,
          associationTo "Tag" "tags" .belongsToMany ],
      objectType "Tag" "Tags"
        [ plainField "id" "ID",
          associationTo "Book" "books" .belongsToMany ] ]

theorem bookshelf_model : ∃ s m,
    (elaborate {} [bookshelf]).result = .ok s ∧ build s = .ok m := by
  have hmodel : (modelOf [bookshelf]).isSome = true := by decide +kernel
  obtain ⟨⟨s, m⟩, hsm⟩ := Option.isSome_iff_exists.mp hmodel
  exact ⟨s, m, modelOf_eq_some.mp hsm⟩

end Documents

end SchemaTables.Storage
