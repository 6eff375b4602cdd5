/-
  SchemaTables.Proofs.Storage.Nullability
  ───────────────────────────────────────
  **WHICH FOREIGN KEYS MUST HAVE A VALUE.**

  A foreign key of an entity may be asked for by several associations: by any
  number of `belongsTo` and by the `hasOne` and `hasMany` that lead back.
  Only a `belongsTo` can ask for one that must have a value, and it does if
  its field disallows null (`Asks.nullable_iff`).  However many of them come
  together, and whichever of them comes first, the column must have a value
  just if one of them says so (`foreignKey_required_iff`).
-/
import SchemaTables.Proofs.Storage.Requests

namespace SchemaTables.Storage

open Elaboration

/-! ## §1. One request. -/

section Request

variable {s : Schema} {d : Draft} {a : Entity × Field × Association}
  {q : Request} {n : String}

/-- What is asked for outside join tables must have a value just if it is the
column of a `belongsTo` that must have one. -/
theorem Asks.nullable_iff (h : Asks s d a q)
    (hplain : ∀ c ∈ q.columns, c.isPrimaryKey = false) :
    (∃ c ∈ q.columns, c.name = n ∧ c.isNullable = false) ↔
      a.2.2 = .belongsTo ∧ a.2.1.nullable = false ∧
        ∃ key, q.relation.link = .manyToOne ⟨q.table, n⟩ key := by
  cases h with
  | @belongsTo e f key =>
      constructor
      · intro hx
        obtain ⟨c, hc, rfl, hnull⟩ := hx
        rw [List.mem_singleton] at hc
        subst hc
        exact ⟨rfl, hnull, key, rfl⟩
      · intro hx
        obtain ⟨-, hnull, key', hlink⟩ := hx
        cases hlink
        exact ⟨_, List.mem_singleton_self _, rfl, hnull⟩
  | has hkind =>
      constructor
      · intro hx
        obtain ⟨c, hc, -, hnull⟩ := hx
        rw [List.mem_singleton] at hc
        subst hc
        cases hnull
      · intro hx
        obtain ⟨-, -, key, hlink⟩ := hx
        cases hlink
  | belongsToMany =>
      -- the columns of join tables are all primary keys
      cases hplain _ List.mem_cons_self

end Request

/-! ## §2. The model. -/

section Required

variable {s : Schema} {d₀ d : Draft}
  {as : List (Entity × Field × Association)} {qs : List Request}
  {rels : List Relation} {t : Table}

/-- Some association that is stored by the column is a `belongsTo` whose field
disallows null. -/
def RequiredBy (as : List (Entity × Field × Association))
    (rels : List Relation) (column : ColumnRef) : Prop :=
  ∃ x ∈ as.zip rels, x.1.2.2 = .belongsTo ∧ x.1.2.1.nullable = false ∧
    ∃ key, x.2.link = .manyToOne column key

/-- Wherever the run has come to, the foreign keys that must have a value are
those that an association so far asks for as such. -/
theorem Fulfilled.required_iff (h : Fulfilled s d₀ as qs d rels)
    (hlaid : LaidOut s.toList d₀) {k : String}
    (ht : d.tables.get? k = some t) (hname : t.name = k)
    (hentity : t.isJoinTable = false) {c : Column} (hc : c ∈ t.columns)
    (href : c.references.isSome = true) :
    c.isNullable = false ↔ RequiredBy as rels (t.ref c.name) := by
  have hmade := h.columns k
  rw [tableAt_of_get? ht] at hmade
  rw [isNullable_addAll (hlaid.sound.nodup_tableAt k)
    (hlaid.references_tableAt k) hmade hc href]
  -- the link of an association names the table that it asks for columns in
  have hasks : ∀ a q, q ∈ qs → request? s d₀ a = some q →
      ((q.table = k ∧ ∃ x ∈ q.columns, x.name = c.name ∧
        x.isNullable = false) ↔
      a.2.2 = .belongsTo ∧ a.2.1.nullable = false ∧
        ∃ key, q.relation.link = .manyToOne (t.ref c.name) key) := by
    intro a q hq ha
    have ha := request?_eq_some.mp ha
    constructor
    · intro hx
      obtain ⟨rfl, hx⟩ := hx
      have hiff := ha.nullable_iff (n := c.name)
        (h.not_isPrimaryKey hq ht hentity)
      rw [Table.ref, hname]
      exact hiff.mp hx
    · intro hx
      have htable : q.table = k := by
        obtain ⟨-, -, key, hlink⟩ := hx
        have hlinked := ha.link_table
        rw [hlink] at hlinked
        exact hlinked.symm.trans hname
      subst htable
      rw [Table.ref, hname] at hx
      exact ⟨rfl, (ha.nullable_iff
        (h.not_isPrimaryKey hq ht hentity)).mpr hx⟩
  constructor
  · intro hx
    obtain ⟨x, hx, hxname, hnull⟩ := hx
    obtain ⟨q, hq, htable, hmem⟩ := mem_columnsFor.mp hx
    obtain ⟨a, ha, hreq⟩ := h.exists_zip hq
    exact ⟨(a, q.relation), ha,
      (hasks a q hq hreq).mp ⟨htable, x, hmem, hxname, hnull⟩⟩
  · intro hx
    obtain ⟨⟨a, r⟩, hmem, hx⟩ := hx
    obtain ⟨q, hq, hreq, rfl⟩ := h.request_of_zip hmem
    obtain ⟨htable, x, hxmem, hxname, hnull⟩ := (hasks a q hq hreq).mpr hx
    exact ⟨x, mem_columnsFor.mpr ⟨q, hq, htable, hxmem⟩, hxname, hnull⟩

end Required

/-- A foreign key of an entity must have a value just if some `belongsTo` that
disallows null is stored in it: no `hasOne` or `hasMany` has a say in it, nor
does the order in which they stand. -/
theorem foreignKey_required_iff {s : Schema} {m : Model}
    (h : build s = .ok m) :
    ∀ t ∈ m.tables.values, t.entity.isSome = true →
      ∀ c ∈ t.columns, c.references.isSome = true →
        (c.isNullable = false ↔
          RequiredBy s.associations m.relations (t.ref c.name)) := by
  obtain ⟨d₀, qs, d, hlaid, hm, hd, hful⟩ := build_fulfilled h
  intro t ht hentity c hc href
  rw [hm, OrderedMap.mem_values_iff] at ht
  obtain ⟨k, hk⟩ := ht
  exact hful.required_iff hlaid hk (hd.stored k t hk)
    (Table.not_isJoinTable_iff.mpr hentity) hc href

/-- Every book has an author, who has books and perhaps a mentor. -/
def authoredBooks : Sdl.Document where
  definitions :=
    [ objectType "Author" "Authors"
        [ associationTo "Author" "mentor" .belongsTo,
          associationTo "Book" "books" .hasMany ],
      objectType "Book" "Books"
        [ { associationTo "Author" "author" .belongsTo with
            type := .named "Author" false } ] ]

/-- The foreign keys of the entities, and whether each must have a value. -/
def Model.requiredKeys (m : Model) : List (ColumnRef × Bool) :=
  m.tables.values.flatMap fun t =>
    (t.columns.filter fun c => t.entity.isSome && c.references.isSome).map
      fun c => (t.ref c.name, !c.isNullable)

theorem mem_requiredKeys {m : Model} {column : ColumnRef} {required : Bool} :
    (column, required) ∈ m.requiredKeys ↔
      ∃ t ∈ m.tables.values, t.entity.isSome = true ∧
        ∃ c ∈ t.columns, c.references.isSome = true ∧
          t.ref c.name = column ∧ (!c.isNullable) = required := by
  simp only [Model.requiredKeys, List.mem_flatMap, List.mem_map,
    List.mem_filter, Bool.and_eq_true, Prod.mk.injEq]
  constructor
  · intro h
    obtain ⟨t, ht, c, ⟨hc, hentity, href⟩, hx⟩ := h
    exact ⟨t, ht, hentity, c, hc, href, hx⟩
  · intro h
    obtain ⟨t, ht, hentity, c, hc, href, hx⟩ := h
    exact ⟨t, ht, c, ⟨hc, hentity, href⟩, hx⟩

/-- A book must have an author, though the author comes first and asks for the
same column without that; an author need not have a mentor. -/
theorem foreignKey_required_iff_authoredBooks : ∃ s m,
    (elaborate {} [authoredBooks]).result = .ok s ∧ build s = .ok m ∧
      m.requiredKeys = [(⟨"authors", "mentor_id"⟩, false),
        (⟨"books", "author_id"⟩, true)] ∧
      RequiredBy s.associations m.relations ⟨"books", "author_id"⟩ ∧
      ¬ RequiredBy s.associations m.relations ⟨"authors", "mentor_id"⟩ := by
  have hrun : (modelOf [authoredBooks]).map (fun sm => sm.2.requiredKeys) =
      some [(⟨"authors", "mentor_id"⟩, false),
        (⟨"books", "author_id"⟩, true)] := by
    decide +kernel
  obtain ⟨⟨s, m⟩, hmodel, hkeys⟩ := Option.map_eq_some_iff.mp hrun
  obtain ⟨hs, hm⟩ := modelOf_eq_some.mp hmodel
  have hiff := foreignKey_required_iff hm
  refine ⟨s, m, hs, hm, hkeys, ?_, ?_⟩
  · obtain ⟨t, ht, hentity, c, hc, href, hcolumn, hnull⟩ :=
      mem_requiredKeys.mp (hkeys ▸ List.mem_cons_of_mem _ List.mem_cons_self)
    rw [Bool.not_eq_true'] at hnull
    exact hcolumn ▸ (hiff t ht hentity c hc href).mp hnull
  · obtain ⟨t, ht, hentity, c, hc, href, hcolumn, hnull⟩ :=
      mem_requiredKeys.mp (hkeys ▸ List.mem_cons_self)
    rw [Bool.not_eq_false'] at hnull
    intro hrequired
    rw [← hcolumn, ← hiff t ht hentity c hc href, hnull] at hrequired
    cases hrequired

end SchemaTables.Storage
