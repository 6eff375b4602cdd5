/-
  SchemaTables.Proofs.Storage.ForeignKeys
  ───────────────────────────────────────
  **EVERY FOREIGN KEY IS SOUND AND ACCOUNTED FOR.**

  In the model of any schema a column with a reference refers to the one
  primary key of a table that stores an entity, and has its type; join tables
  consist of such columns alone.  Both follow from the soundness of the draft
  at the end of the run.

  No foreign key is left over: each is the one by which some relation is
  stored, and each join table is named by some relation (`Accounted`).  That
  is kept by each step because a table only ever gains the columns of the
  association that the step records.
-/
import SchemaTables.Proofs.Storage.Build

namespace SchemaTables.Storage

/-! ## §1. The property. -/

/-- The column `c` refers to the one primary key of a table that stores an
entity, and has its type. -/
def Model.RefersToKey (m : Model) (c : Column) : Prop :=
  ∀ r, c.references = some r →
    ∃ t key, m.table? r.table = some t ∧ t.entity.isSome = true ∧
      t.primaryKey = [key] ∧ key.name = r.column ∧ key.type = c.type

/-- All foreign keys of a model are sound, and none is left over. -/
structure ForeignKeysSound (m : Model) : Prop where
  stored : ∀ k t, (k, t) ∈ m.tables.entries → t.name = k
  distinct : ∀ t ∈ m.tables.values, (t.columns.map Column.name).Nodup
  refers : ∀ t ∈ m.tables.values, ∀ c ∈ t.columns, m.RefersToKey c
  ofEntity : ∀ t ∈ m.tables.values, t.entity.isSome = true →
    ∀ c ∈ t.columns, c.references.isSome = true →
      c.isPrimaryKey = false ∧ c.isAutoIncrement = false
  ofJoin : ∀ t ∈ m.tables.values, t.entity = none → ∀ c ∈ t.columns,
    c.references.isSome = true ∧ c.isPrimaryKey = true ∧
      c.isNullable = false
  column : ∀ t ∈ m.tables.values, t.entity.isSome = true →
    ∀ c ∈ t.columns, c.references.isSome = true →
      ∃ r ∈ m.relations, r.link.foreignKey? = some (t.ref c.name)
  table : ∀ t ∈ m.tables.values, t.entity = none →
    ∃ r ∈ m.relations, r.link.joinTable? = some t.name

/-! ## §2. Nothing is left over. -/

/-- Every foreign key and every join table belongs to a relation. -/
structure Accounted (d : Draft) (rels : List Relation) : Prop where
  column : ∀ k t, d.tables.get? k = some t → t.isJoinTable = false →
    ∀ c ∈ t.columns, c.references.isSome = true →
      ∃ r ∈ rels, r.link.foreignKey? = some (t.ref c.name)
  table : ∀ k t, d.tables.get? k = some t → t.isJoinTable = true →
    ∃ r ∈ rels, r.link.joinTable? = some t.name

namespace Accounted

variable {d d' : Draft} {rels : List Relation} {r : Relation} {t t' : Table}

/-- A layout has no foreign keys at all. -/
theorem layOut {es : List Entity} (h : LaidOut es d) : Accounted d [] := by
  refine ⟨?_, ?_⟩
  · intro k t ht _ c hc href
    obtain ⟨-, e, -, hentity⟩ := h.table k t ht
    rw [hentity.references c hc] at href
    cases href
  · intro k t ht hjoin
    obtain ⟨-, e, -, hentity⟩ := h.table k t ht
    rw [hentity.isJoinTable] at hjoin
    cases hjoin

/-- A column is added to the table of an entity, and a relation with it. -/
theorem addForeignKey {new : Column} (h : Accounted d rels)
    (ht : d.tables.get? t.name = some t)
    (hentity : t.isJoinTable = false) (hadd : t.addColumn new = .ok t')
    (hlink : r.link.foreignKey? = some (t'.ref new.name)) :
    Accounted (d.replace t') (rels ++ [r]) := by
  have hmem : r ∈ rels ++ [r] := by simp
  have hname := name_addColumn hadd
  rw [addColumn_eq_ok] at hadd
  obtain ⟨cols, hcols, rfl⟩ := hadd
  refine ⟨?_, ?_⟩
  · intro k u hu hjoin c hc href
    rcases Draft.get?_replace_cases hu with ⟨-, rfl⟩ | ⟨-, hu⟩
    · have hold : ∀ old ∈ t.columns, old.references.isSome = true →
          ∃ q ∈ rels ++ [r], q.link.foreignKey? = some (t.ref old.name) := by
        intro old hold hsome
        obtain ⟨q, hq, hqlink⟩ := h.column _ t ht hentity old hold hsome
        exact ⟨q, List.mem_append_left _ hq, hqlink⟩
      rcases mem_addTo hcols hc with hc | rfl | ⟨old, -, hn, -, rfl⟩
      · exact hold c hc href
      · exact ⟨r, hmem, hlink⟩
      · -- a merged column is the one that the new relation names
        refine ⟨r, hmem, ?_⟩
        rw [hlink, ← hn]
        rfl
    · obtain ⟨q, hq, hqlink⟩ := h.column k u hu hjoin c hc href
      exact ⟨q, List.mem_append_left _ hq, hqlink⟩
  · intro k u hu hjoin
    rcases Draft.get?_replace_cases hu with ⟨-, rfl⟩ | ⟨-, hu⟩
    · -- the table that has changed is no join table
      have : t.isJoinTable = true := hjoin
      rw [hentity] at this
      cases this
    · obtain ⟨q, hq, hqlink⟩ := h.table k u hu hjoin
      exact ⟨q, List.mem_append_left _ hq, hqlink⟩

/-- A join table is put into the draft, and a relation with it. -/
theorem putJoinTable (h : Accounted d rels) (hjoin : t.isJoinTable = true)
    (hlink : r.link.joinTable? = some t.name) :
    Accounted (d.replace t) (rels ++ [r]) := by
  refine ⟨?_, ?_⟩
  · intro k u hu hentity c hc href
    rcases Draft.get?_replace_cases hu with ⟨-, rfl⟩ | ⟨-, hu⟩
    · rw [hjoin] at hentity
      cases hentity
    · obtain ⟨q, hq, hqlink⟩ := h.column k u hu hentity c hc href
      exact ⟨q, List.mem_append_left _ hq, hqlink⟩
  · intro k u hu hu'
    rcases Draft.get?_replace_cases hu with ⟨-, rfl⟩ | ⟨-, hu⟩
    · exact ⟨r, by simp, hlink⟩
    · obtain ⟨q, hq, hqlink⟩ := h.table k u hu hu'
      exact ⟨q, List.mem_append_left _ hq, hqlink⟩

/-- A step accounts for what it adds. -/
theorem step {s : Schema} {a : Entity × Field × Association} {l : Link}
    (h : Accounted d rels) (hd : d.Sound)
    (hlink : Linked s d a.1 a.2.1 a.2.2 d' l) :
    Accounted d' (rels ++ [relationOf a l]) := by
  have hentity : ∀ {n : String} {u : Table}, d.entityTable? n = some u →
      d.tables.get? u.name = some u ∧ u.isJoinTable = false := by
    intro n u hu
    obtain ⟨-, hget, hn⟩ := hd.entityTable hu
    exact ⟨hget, Table.not_isJoinTable hn⟩
  -- only the kind of the link matters, not that it is the one of `a`
  generalize hkind : a.2.2 = kind at hlink
  cases hlink with
  | belongsTo hkey htable hadd =>
      obtain ⟨hget, hjoin⟩ := hentity htable
      exact h.addForeignKey hget hjoin hadd rfl
  | has _ hkey _ htable hadd =>
      obtain ⟨hget, hjoin⟩ := hentity htable
      exact h.addForeignKey hget hjoin hadd rfl
  | belongsToMany hkey htarget _ htable hone hother =>
      obtain ⟨-, -, -, hname, hjoin⟩ := hd.addJoinColumns (hd.isKeyOf hkey)
        (hd.isKeyOf htarget) htable hone hother
      apply h.putJoinTable hjoin
      rw [hname]
      rfl

end Accounted

theorem linkAll_accounted {s : Schema}
    {as : List (Entity × Field × Association)} {d : Draft}
    {rels : List Relation} (run : linkAll s as = .ok (d, rels)) :
    Accounted d rels :=
  (linkAll_invariant (fun _ d rels => Accounted d rels)
    (fun _ hlaid => Accounted.layOut hlaid)
    (fun _ _ _ _ _ _ _ hrunning hacc hlink =>
      hacc.step hrunning.sound hlink) run).2

/-! ## §3. The foreign keys of a model. -/

/-- A key that a draft has is one of the model. -/
theorem refersToKey_of_foreignKeyIn {m : Model} {t : Table} {c : Column}
    (h : ForeignKeyIn m.tables t c) : m.RefersToKey c := by
  intro r hr
  obtain ⟨key, href, u, k, hu, hjoin, hprimary, hname, htype⟩ := h.refers
  rw [hr] at href
  cases href
  exact ⟨u, k, hu, Table.not_isJoinTable_iff.mp hjoin, hprimary, hname,
    htype⟩

/-- The foreign keys of every model are sound, and none is left over. -/
theorem foreignKeys_sound {s : Schema} {m : Model} (h : build s = .ok m) :
    ForeignKeysSound m := by
  obtain ⟨d, rels, hrun, rfl⟩ := build_eq_ok h
  have hsound := (linkAll_running hrun).sound
  have haccounted := linkAll_accounted hrun
  -- a table of the model is looked up by its name
  have hget : ∀ t ∈ d.tables.values, d.tables.get? t.name = some t := by
    intro t ht
    obtain ⟨k, hk⟩ := OrderedMap.mem_values_iff.mp ht
    rw [hsound.stored k t hk]
    exact hk
  have hforeign : ∀ t ∈ d.tables.values, ∀ c ∈ t.columns,
      c.references.isSome = true ∨ t.isJoinTable = true →
        ForeignKeyIn d.tables t c :=
    fun t ht => (hsound.table _ t (hget t ht)).foreign
  refine ⟨?_, ?_, ?_, ?_, ?_, ?_, ?_⟩
  · intro k t ht
    exact hsound.stored k t (OrderedMap.mem_entries_iff.mp ht)
  · intro t ht
    exact (hsound.table _ t (hget t ht)).distinct
  · intro t ht c hc r hr
    have hsome : c.references.isSome = true := by rw [hr]; rfl
    exact refersToKey_of_foreignKeyIn (hforeign t ht c hc (.inl hsome)) r hr
  · intro t ht hentity c hc href
    have hjoin := Table.not_isJoinTable_iff.mpr hentity
    have hkey := hforeign t ht c hc (.inl href)
    exact ⟨hkey.primary.trans hjoin, hkey.plain⟩
  · intro t ht hnone c hc
    have hjoin := Table.isJoinTable_iff.mpr hnone
    have hkey := hforeign t ht c hc (.inr hjoin)
    exact ⟨hkey.references_isSome, hkey.primary.trans hjoin,
      hkey.required hjoin⟩
  · intro t ht hentity
    have hjoin := Table.not_isJoinTable_iff.mpr hentity
    exact haccounted.column _ t (hget t ht) hjoin
  · intro t ht hnone
    have hjoin := Table.isJoinTable_iff.mpr hnone
    exact haccounted.table _ t (hget t ht) hjoin

/-- The foreign keys of every table, with the entity that it stores. -/
def Model.foreignKeys (m : Model) :
    List (String × Option String × List (String × ColumnRef)) :=
  m.tables.values.map fun t =>
    (t.name, t.entity, t.columns.filterMap fun c =>
      c.references.map fun r => (c.name, r))

/-- The bookshelf has foreign keys of entities and a join table of two. -/
theorem foreignKeys_sound_bookshelf :
    ∃ s m, (Elaboration.elaborate {} [bookshelf]).result = .ok s ∧
      build s = .ok m ∧
      m.foreignKeys =
        [("authors", some "Author", [("mentor_id", ⟨"authors", "id"⟩)]),
          ("books", some "Book", [("author_id", ⟨"authors", "id"⟩)]),
          ("tags", some "Tag", []),
          ("books_tags", none, [("book_id", ⟨"books", "id"⟩),
            ("tag_id", ⟨"tags", "id"⟩)])] ∧
      ForeignKeysSound m := by
  have hrun : (modelOf [bookshelf]).map (fun sm => sm.2.foreignKeys) = some
      [("authors", some "Author", [("mentor_id", ⟨"authors", "id"⟩)]),
        ("books", some "Book", [("author_id", ⟨"authors", "id"⟩)]),
        ("tags", some "Tag", []),
        ("books_tags", none, [("book_id", ⟨"books", "id"⟩),
          ("tag_id", ⟨"tags", "id"⟩)])] := by
    decide +kernel
  obtain ⟨⟨s, m⟩, hmodel, hkeys⟩ := Option.map_eq_some_iff.mp hrun
  obtain ⟨hs, hm⟩ := modelOf_eq_some.mp hmodel
  exact ⟨s, m, hs, hm, hkeys, foreignKeys_sound hm⟩

end SchemaTables.Storage
