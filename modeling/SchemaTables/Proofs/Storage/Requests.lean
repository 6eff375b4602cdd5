/-
  SchemaTables.Proofs.Storage.Requests
  ────────────────────────────────────
  **WHAT AN ASSOCIATION ASKS FOR.**

  Storing an association adds one or two columns to one table.  Which these
  are follows from the schema and from the keys and tables of the entities,
  which are laid out before any association is stored (`request?`, with one
  case for each of the three links in `Asks`).  So the run amounts to a list
  of requests, and every table is what the columns that are asked for make of
  it, one after another (`Fulfilled`):

      addAll (columnsFor k requests) (table k of the layout) = table k

  A table that is not there yet counts as a join table without columns.
-/
import SchemaTables.Proofs.Storage.Additions
import SchemaTables.Proofs.Storage.Build

namespace SchemaTables.Storage

/-! ## §1. Tables that may be missing. -/

/-- The table of this name, or a join table that is still empty. -/
def Draft.tableAt (d : Draft) (k : String) : Table :=
  (d.tables.get? k).getD { name := k, entity := none, columns := [] }

section TableAt

variable {d : Draft} {k : String} {t : Table}

theorem tableAt_of_get? (h : d.tables.get? k = some t) :
    d.tableAt k = t := by
  unfold Draft.tableAt
  rw [h]
  rfl

theorem tableAt_of_joinTable {shared : Bool}
    (h : joinTable d k shared = .ok t) : d.tableAt k = t := by
  unfold joinTable at h
  unfold Draft.tableAt
  split at h
  · next hnone =>
      cases h
      rw [hnone]
      rfl
  · next u hu =>
      split at h
      · cases h
        rw [hu]
        rfl
      · cases h

theorem tableAt_replace_self (d : Draft) (t : Table) :
    (d.replace t).tableAt t.name = t :=
  tableAt_of_get? (d.get?_replace t)

theorem tableAt_replace_of_ne (h : t.name ≠ k) :
    (d.replace t).tableAt k = d.tableAt k := by
  unfold Draft.tableAt Draft.replace
  rw [OrderedMap.get?_insert_of_ne h]

/-- What is laid out refers to nothing. -/
theorem LaidOut.references_tableAt {es : List Entity} (h : LaidOut es d)
    (k : String) : ∀ c ∈ (d.tableAt k).columns, c.references = none := by
  unfold Draft.tableAt
  cases ht : d.tables.get? k with
  | none =>
      intro c hc
      cases hc
  | some t =>
      obtain ⟨-, e, -, htable⟩ := h.table k t ht
      exact htable.references

theorem exists_get?_replace :
    (∃ u, (d.replace t).tables.get? k = some u) ↔
      t.name = k ∨ ∃ u, d.tables.get? k = some u := by
  by_cases hk : t.name = k
  · subst hk
    exact iff_of_true ⟨t, d.get?_replace t⟩ (.inl rfl)
  · unfold Draft.replace
    rw [OrderedMap.get?_insert_of_ne hk]
    simp [hk]

/-- The columns of a table have distinct names, even if it is missing. -/
theorem Draft.Sound.nodup_tableAt (h : d.Sound) (k : String) :
    ((d.tableAt k).columns.map Column.name).Nodup := by
  unfold tableAt
  cases ht : d.tables.get? k with
  | none => exact List.nodup_nil
  | some t => exact (h.table k t ht).distinct

end TableAt

/-! ## §2. Requests. -/

/-- What an association asks for, and the relation that records it. -/
structure Request where
  relation : Relation
  table : String
  columns : List Column

/-- What the association `a` asks for where `d` has the tables of the
entities. -/
def request? (s : Schema) (d : Draft) (a : Entity × Field × Association) :
    Option Request :=
  match a with
  | (e, f, .belongsTo) => do
      let (key, type) ← d.primaryKey? f.baseType
      let table ← d.entityTables.get? e.name
      return {
        relation := relationOf a (.manyToOne ⟨table, foreignKeyName f.name⟩ key)
        table := table
        columns := [foreignKey f.name type f.nullable key] }
  | (e, f, .belongsToMany) => do
      let (key, type) ← d.primaryKey? e.name
      let (target, targetType) ← d.primaryKey? f.baseType
      let shared ← (sharesJoinTable s e f).toOption
      let table := joinNameOf shared key.table target.table f
      return {
        relation := relationOf a (.manyToMany table
          ⟨table, foreignKeyName e.name⟩
          ⟨table, foreignKeyName (farName e f)⟩)
        table := table
        columns := [joinColumn e.name type key,
          joinColumn (farName e f) targetType target] }
  | (e, f, _) => do
      let (key, type) ← d.primaryKey? e.name
      let name ← (foreignName s e f).toOption
      let table ← d.entityTables.get? f.baseType
      return {
        relation := relationOf a (.oneToMany key ⟨table, foreignKeyName name⟩)
        table := table
        columns := [foreignKey name type true key] }

/-- All that `request?` looks up, and the request that comes of it. -/
inductive Asks (s : Schema) (d : Draft) :
    Entity × Field × Association → Request → Prop where
  | belongsTo {e : Entity} {f : Field} {key : ColumnRef} {type : ColumnType}
      {table : String} (hkey : d.primaryKey? f.baseType = some (key, type))
      (htable : d.entityTables.get? e.name = some table) :
      Asks s d (e, f, .belongsTo)
        ⟨relationOf (e, f, .belongsTo)
            (.manyToOne ⟨table, foreignKeyName f.name⟩ key),
          table, [foreignKey f.name type f.nullable key]⟩
  | has {e : Entity} {f : Field} {kind : Association} {key : ColumnRef}
      {type : ColumnType} {name table : String} (hkind : kind.isHas = true)
      (hkey : d.primaryKey? e.name = some (key, type))
      (hname : foreignName s e f = .ok name)
      (htable : d.entityTables.get? f.baseType = some table) :
      Asks s d (e, f, kind)
        ⟨relationOf (e, f, kind)
            (.oneToMany key ⟨table, foreignKeyName name⟩),
          table, [foreignKey name type true key]⟩
  | belongsToMany {e : Entity} {f : Field} {key target : ColumnRef}
      {type targetType : ColumnType} {shared : Bool} {table : String}
      (hkey : d.primaryKey? e.name = some (key, type))
      (htarget : d.primaryKey? f.baseType = some (target, targetType))
      (hshared : sharesJoinTable s e f = .ok shared)
      (htable : table = joinNameOf shared key.table target.table f) :
      Asks s d (e, f, .belongsToMany)
        ⟨relationOf (e, f, .belongsToMany)
            (.manyToMany table ⟨table, foreignKeyName e.name⟩
              ⟨table, foreignKeyName (farName e f)⟩),
          table, [joinColumn e.name type key,
            joinColumn (farName e f) targetType target]⟩

theorem request?_eq_some {s : Schema} {d : Draft}
    {a : Entity × Field × Association} {q : Request} :
    request? s d a = some q ↔ Asks s d a q := by
  constructor
  · intro h
    obtain ⟨e, f, kind⟩ := a
    cases kind <;>
      simp only [request?, bind, Option.bind_eq_some_iff, Prod.exists,
        toOption_eq_some, pure, Option.some.injEq] at h
    · obtain ⟨key, type, hkey, name, hname, table, htable, rfl⟩ := h
      exact .has rfl hkey hname htable
    · obtain ⟨key, type, hkey, name, hname, table, htable, rfl⟩ := h
      exact .has rfl hkey hname htable
    · obtain ⟨key, type, hkey, table, htable, rfl⟩ := h
      exact .belongsTo hkey htable
    · obtain ⟨key, type, hkey, target, targetType, htarget, shared, hshared,
        rfl⟩ := h
      exact .belongsToMany hkey htarget hshared rfl
  · intro h
    cases h with
    | belongsTo hkey htable => simp [request?, hkey, htable]
    | @has _ _ kind _ _ _ _ hkind hkey hname htable =>
        cases kind with
        | belongsTo => cases hkind
        | belongsToMany => cases hkind
        | hasOne => simp [request?, hkey, hname, htable, Except.toOption]
        | hasMany => simp [request?, hkey, hname, htable, Except.toOption]
    | belongsToMany hkey htarget hshared htable =>
        simp [request?, hkey, htarget, hshared, Except.toOption, htable]

/-- An association is stored in the table that it asks for columns in. -/
theorem Asks.link_table {s : Schema} {d : Draft}
    {a : Entity × Field × Association} {q : Request} (h : Asks s d a q) :
    q.relation.link.table = q.table := by
  cases h <;> rfl

/-- The columns that are asked for in the table `k`, in order. -/
def columnsFor (k : String) (qs : List Request) : List Column :=
  (qs.filter fun q => q.table = k).flatMap Request.columns

theorem mem_columnsFor {k : String} {qs : List Request} {c : Column} :
    c ∈ columnsFor k qs ↔ ∃ q ∈ qs, q.table = k ∧ c ∈ q.columns := by
  unfold columnsFor
  simp only [List.mem_flatMap, List.mem_filter, decide_eq_true_eq, and_assoc]

theorem columnsFor_append (k : String) (qs : List Request) (q : Request) :
    columnsFor k (qs ++ [q]) =
      columnsFor k qs ++ if q.table = k then q.columns else [] := by
  unfold columnsFor
  rw [List.filter_append, List.flatMap_append]
  by_cases h : q.table = k
  · simp [h]
  · simp [h]

theorem perm_columnsFor (k : String) {qs qs' : List Request}
    (h : qs.Perm qs') : (columnsFor k qs).Perm (columnsFor k qs') :=
  (h.filter _).flatMap_right _

section Step

variable {s : Schema} {d d' : Draft} {a : Entity × Field × Association}
  {l : Link}

/-- The request `q` of the association `a` is met by putting the table `t'` in
its place, and recorded with the link `l`. -/
structure Meets (s : Schema) (d : Draft) (a : Entity × Field × Association)
    (q : Request) (t' : Table) (l : Link) : Prop where
  request : request? s d a = some q
  relation : q.relation = relationOf a l
  name : t'.name = q.table
  entity : t'.entity = (d.tableAt q.table).entity
  columns : addAll q.columns (d.tableAt q.table).columns = some t'.columns
  suits : ∀ c ∈ q.columns, ForeignKeyIn d.tables t' c

/-- A request is met by adding its columns to the table that was found. -/
theorem Meets.ofTable {t : Table} {new cols : List Column}
    (hat : d.tableAt t.name = t)
    (hrequest : request? s d a = some ⟨relationOf a l, t.name, new⟩)
    (hcols : addAll new t.columns = some cols)
    (hsuits : ∀ c ∈ new, ForeignKeyIn d.tables { t with columns := cols } c) :
    Meets s d a ⟨relationOf a l, t.name, new⟩ { t with columns := cols } l := by
  refine ⟨hrequest, rfl, rfl, ?_, ?_, hsuits⟩
  · show t.entity = (d.tableAt t.name).entity
    rw [hat]
  · show addAll new (d.tableAt t.name).columns = some cols
    rw [hat]
    exact hcols

/-- A foreign key in the table of an entity. -/
theorem Draft.Sound.meets {entity holder name : String} {key : ColumnRef}
    {type : ColumnType} {nullable : Bool} {t t' : Table} (hd : d.Sound)
    (hkey : d.primaryKey? entity = some (key, type))
    (htable : d.entityTable? holder = some t)
    (hadd : t.addColumn (foreignKey name type nullable key) = .ok t')
    (hrequest : request? s d a = some
      ⟨relationOf a l, t.name, [foreignKey name type nullable key]⟩) :
    Meets s d a ⟨relationOf a l, t.name, [foreignKey name type nullable key]⟩
      t' l := by
  obtain ⟨-, hget, hentity⟩ := hd.entityTable htable
  obtain ⟨cols, hcols, rfl⟩ := addColumn_eq_ok.mp hadd
  have hjoin : Table.isJoinTable { t with columns := cols } = false :=
    Table.not_isJoinTable hentity
  apply Meets.ofTable (tableAt_of_get? hget) hrequest
    (addAll_cons.mpr ⟨cols, hcols, rfl⟩)
  intro c hc
  rw [List.mem_singleton] at hc
  subst hc
  exact foreignKeyIn_foreignKey (hd.isKeyOf hkey) hjoin name nullable

/-- A step asks for columns and gets them. -/
theorem Linked.meets (h : Linked s d a.1 a.2.1 a.2.2 d' l) (hd : d.Sound) :
    ∃ q t', d' = d.replace t' ∧ Meets s d a q t' l := by
  obtain ⟨e, f, kind⟩ := a
  dsimp only at h
  cases h with
  | belongsTo hkey htable hadd =>
      have htab := (hd.entityTable htable).1
      refine ⟨_, _, rfl, hd.meets hkey htable hadd ?_⟩
      simp [request?, Table.ref, hkey, htab, name_addColumn hadd]
  | has hkind hkey hname htable hadd =>
      have htab := (hd.entityTable htable).1
      refine ⟨_, _, rfl, hd.meets hkey htable hadd ?_⟩
      cases kind with
      | belongsTo => cases hkind
      | belongsToMany => cases hkind
      | hasOne =>
          simp [request?, Table.ref, hkey, htab, hname, Except.toOption,
            name_addColumn hadd]
      | hasMany =>
          simp [request?, Table.ref, hkey, htab, hname, Except.toOption,
            name_addColumn hadd]
  | @belongsToMany key target type targetType shared t t₁ t₂ hkey htarget
      hshared htable hone hother =>
      obtain ⟨hname, hjoin, -, -⟩ := hd.joinTable htable
      obtain ⟨cols, hcols, rfl⟩ := addColumn_eq_ok.mp hone
      obtain ⟨cols', hcols', rfl⟩ := addColumn_eq_ok.mp hother
      have hjoin' : Table.isJoinTable { t with columns := cols' } = true :=
        hjoin
      have hboth : addAll [joinColumn e.name type key,
          joinColumn (farName e f) targetType target] t.columns = some cols' :=
        addAll_cons.mpr ⟨cols, hcols, addAll_cons.mpr ⟨cols', hcols', rfl⟩⟩
      refine ⟨_, _, rfl, .ofTable (t := t) ?_ ?_ hboth ?_⟩
      · rw [hname]
        exact tableAt_of_joinTable htable
      · simp [request?, hkey, htarget, hshared, Except.toOption, Table.ref,
          hname]
      · intro c hc
        rcases List.mem_cons.mp hc with rfl | hc
        · exact foreignKeyIn_joinColumn (hd.isKeyOf hkey) hjoin' _
        · rw [List.mem_singleton] at hc
          subst hc
          exact foreignKeyIn_joinColumn (hd.isKeyOf htarget) hjoin' _

/-- What an association asks for stays the same while the draft grows. -/
theorem request?_of_grows (h : d.Grows d') (hd : d.Sound) (hd' : d'.Sound)
    (a : Entity × Field × Association) :
    request? s d' a = request? s d a := by
  obtain ⟨e, f, kind⟩ := a
  cases kind <;>
    simp only [request?, h.primaryKey?_eq hd hd', h.entityTables]

end Step

/-! ## §3. The run. -/

/-- The draft `d` is what the requests `qs` make of the layout `d₀`, and
`rels` records them; they are those of the associations `as`. -/
structure Fulfilled (s : Schema) (d₀ : Draft)
    (as : List (Entity × Field × Association)) (qs : List Request)
    (d : Draft) (rels : List Relation) : Prop where
  requests : List.Forall₂ (fun a q => request? s d₀ a = some q) as qs
  relations : rels = qs.map Request.relation
  columns : ∀ k, addAll (columnsFor k qs) (d₀.tableAt k).columns
    = some (d.tableAt k).columns
  entity : ∀ k, (d.tableAt k).entity = (d₀.tableAt k).entity
  present : ∀ k, (∃ t, d.tables.get? k = some t) ↔
    (∃ t, d₀.tables.get? k = some t) ∨ ∃ q ∈ qs, q.table = k
  suits : ∀ q ∈ qs, ∃ t, d.tables.get? q.table = some t ∧
    ∀ c ∈ q.columns, ForeignKeyIn d.tables t c

section Run

variable {s : Schema} {d₀ d d' : Draft}
  {as : List (Entity × Field × Association)} {qs : List Request}
  {rels : List Relation}

theorem Fulfilled.start (s : Schema) (d₀ : Draft) :
    Fulfilled s d₀ [] [] d₀ [] := by
  refine ⟨.nil, rfl, fun _ => rfl, fun _ => rfl, ?_, ?_⟩
  · intro k
    simp
  · intro q hq
    cases hq

/-- A step makes one more request, and what was asked for before stays. -/
theorem Fulfilled.step {a : Entity × Field × Association} {l : Link}
    (h : Fulfilled s d₀ as qs d rels) (hlaid : d₀.Sound) (hd : d.Sound)
    (hgrown : d₀.Grows d) (hlink : Linked s d a.1 a.2.1 a.2.2 d' l) :
    ∃ q, Fulfilled s d₀ (as ++ [a]) (qs ++ [q]) d'
      (rels ++ [relationOf a l]) := by
  have hgrows := hlink.grows hd
  obtain ⟨q, t', rfl, hq⟩ := hlink.meets hd
  -- the step changes the table `q.table` only
  have hat : (d.replace t').tableAt q.table = t' := by
    rw [← hq.name]
    exact tableAt_replace_self d t'
  have hother : ∀ k, q.table ≠ k →
      (d.replace t').tableAt k = d.tableAt k := fun k hk =>
    tableAt_replace_of_ne (hq.name ▸ hk)
  refine ⟨q, ?_, ?_, ?_, ?_, ?_, ?_⟩
  · have hrequest : request? s d₀ a = some q := by
      rw [← request?_of_grows hgrown hlaid hd]
      exact hq.request
    exact List.rel_append h.requests (.cons hrequest .nil)
  · rw [h.relations, ← hq.relation, List.map_append]
    rfl
  · intro k
    rw [columnsFor_append]
    by_cases hk : q.table = k
    · subst hk
      rw [if_pos rfl, hat]
      exact addAll_append.mpr ⟨_, h.columns _, hq.columns⟩
    · rw [if_neg hk, List.append_nil, hother k hk]
      exact h.columns k
  · intro k
    rw [← h.entity k]
    by_cases hk : q.table = k
    · subst hk
      rw [hat, hq.entity]
    · rw [hother k hk]
  · intro k
    rw [exists_get?_replace, h.present, hq.name]
    simp only [List.mem_append, List.mem_singleton, or_and_right, exists_or,
      exists_eq_left]
    exact or_rotate
  · intro q' hq'
    rcases List.mem_append.mp hq' with hq' | hq'
    · obtain ⟨t, ht, hsuits⟩ := h.suits q' hq'
      obtain ⟨u, hu, hgrows'⟩ := hgrows.tables _ t ht
      exact ⟨u, hu, fun c hc =>
        ((hsuits c hc).mono hgrows.tables).ofGrows hgrows'⟩
    · rw [List.mem_singleton] at hq'
      subst hq'
      refine ⟨t', ?_, fun c hc => (hq.suits c hc).mono hgrows.tables⟩
      rw [← hq.name]
      exact d.get?_replace t'

/-- Associations, requests and relations stand side by side. -/
theorem Fulfilled.request_of_zip (h : Fulfilled s d₀ as qs d rels)
    {a : Entity × Field × Association} {r : Relation}
    (hr : (a, r) ∈ as.zip rels) :
    ∃ q ∈ qs, request? s d₀ a = some q ∧ q.relation = r := by
  rw [h.relations, List.zip_map_right, List.mem_map] at hr
  obtain ⟨⟨a', q⟩, hmem, heq⟩ := hr
  cases heq
  exact ⟨q, (List.of_mem_zip hmem).2, List.forall₂_zip h.requests hmem, rfl⟩

theorem Fulfilled.exists_zip (h : Fulfilled s d₀ as qs d rels) {q : Request}
    (hq : q ∈ qs) : ∃ a, (a, q.relation) ∈ as.zip rels ∧
      request? s d₀ a = some q := by
  have hsnd : (as.zip qs).map Prod.snd = qs :=
    List.map_snd_zip (Nat.le_of_eq h.requests.length_eq.symm)
  obtain ⟨⟨a, q'⟩, hmem, rfl⟩ := exists_of_map_eq hsnd hq
  refine ⟨a, ?_, List.forall₂_zip h.requests hmem⟩
  rw [h.relations, List.zip_map_right, List.mem_map]
  exact ⟨(a, q'), hmem, rfl⟩

/-- The relation of an association is the one that it asks for. -/
theorem Fulfilled.relation_of_zip (h : Fulfilled s d₀ as qs d rels)
    {a : Entity × Field × Association} {r : Relation}
    (hr : (a, r) ∈ as.zip rels) :
    ∃ q, request? s d₀ a = some q ∧ q.relation = r := by
  obtain ⟨q, -, hq⟩ := h.request_of_zip hr
  exact ⟨q, hq⟩

/-- Associations are stored in the tables that they ask for columns in. -/
theorem Fulfilled.linkTables (h : Fulfilled s d₀ as qs d rels) :
    (rels.map fun r => r.link.table) = qs.map Request.table := by
  rw [h.relations, List.map_map, List.map_inj_left]
  intro q hq
  obtain ⟨a, -, ha⟩ := exists_left_of_forall₂ h.requests q hq
  exact (request?_eq_some.mp ha).link_table

/-- What was asked for in the table of an entity belongs to no primary key. -/
theorem Fulfilled.not_isPrimaryKey (h : Fulfilled s d₀ as qs d rels)
    {q : Request} {t : Table} (hq : q ∈ qs)
    (ht : d.tables.get? q.table = some t)
    (hentity : t.isJoinTable = false) :
    ∀ c ∈ q.columns, c.isPrimaryKey = false := by
  intro c hc
  obtain ⟨t', ht', hsuits⟩ := h.suits q hq
  rw [ht] at ht'
  cases ht'
  rw [(hsuits c hc).primary, hentity]

/-- Columns of one name that are asked for in one table, and that refer to
the same, differ in their nullability only. -/
theorem Fulfilled.shape_eq {es : List Entity}
    (h : Fulfilled s d₀ as qs d rels) (hlaid : LaidOut es d₀) (k : String) :
    ∀ x ∈ columnsFor k qs, ∀ y ∈ (d₀.tableAt k).columns ++ columnsFor k qs,
      y.name = x.name → y.references = x.references → y.shape = x.shape := by
  have hsuits : ∀ x ∈ columnsFor k qs, ∃ t, d.tables.get? k = some t ∧
      ForeignKeyIn d.tables t x := by
    intro x hx
    obtain ⟨q, hq, rfl, hmem⟩ := mem_columnsFor.mp hx
    obtain ⟨t, ht, hcols⟩ := h.suits q hq
    exact ⟨t, ht, hcols x hmem⟩
  intro x hx y hy hname href
  obtain ⟨t, ht, hxsuits⟩ := hsuits x hx
  rcases List.mem_append.mp hy with hy | hy
  · -- what is laid out refers to nothing
    have hsome := hxsuits.references_isSome
    rw [← href, hlaid.references_tableAt k y hy] at hsome
    cases hsome
  · obtain ⟨t', ht', hysuits⟩ := hsuits y hy
    rw [ht] at ht'
    cases ht'
    exact hxsuits.shape_eq hysuits hname href

/-- Wherever the run has come to, the draft is what the requests so far make
of the layout. -/
theorem linkAll_fulfilled (run : linkAll s as = .ok (d, rels)) :
    d.Sound ∧ ∃ d₀ qs, layOut s = .ok d₀ ∧ Fulfilled s d₀ as qs d rels := by
  obtain ⟨hrunning, d₀, qs, hlay, -, hfulfilled⟩ := linkAll_invariant_from
    (fun done d rels => ∃ d₀ qs, layOut s = .ok d₀ ∧ d₀.Grows d ∧
      Fulfilled s d₀ done qs d rels)
    (fun d₀ hlay => ⟨d₀, [], hlay, Draft.Grows.refl d₀, .start s d₀⟩)
    (fun done a d rels d' l _ hrunning hbefore hlink => by
      obtain ⟨d₀, qs, hlay, hgrown, hfulfilled⟩ := hbefore
      obtain ⟨q, hq⟩ := hfulfilled.step (layOut_spec hlay).sound
        hrunning.sound hgrown hlink
      exact ⟨d₀, qs ++ [q], hlay,
        hgrown.trans (hlink.grows hrunning.sound), hq⟩)
    run
  exact ⟨hrunning.sound, d₀, qs, hlay, hfulfilled⟩

/-- A model is what the requests of all associations make of the layout. -/
theorem build_fulfilled {m : Model} (h : build s = .ok m) :
    ∃ d₀ qs d, LaidOut s.toList d₀ ∧ m.tables = d.tables ∧ d.Sound ∧
      Fulfilled s d₀ s.associations qs d m.relations := by
  obtain ⟨d, rels, hrun, rfl⟩ := build_eq_ok h
  obtain ⟨hsound, d₀, qs, hlay, hfulfilled⟩ := linkAll_fulfilled hrun
  exact ⟨d₀, qs, d, layOut_spec hlay, rfl, hsound, hfulfilled⟩

end Run

end SchemaTables.Storage
