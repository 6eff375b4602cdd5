/-
  SchemaTables.Proofs.Storage.Soundness
  ─────────────────────────────────────
  **SOUND DRAFTS.**

  The invariant of storing a schema.  In a sound draft

      * every table stands under its own name,
      * the columns of a table have distinct names,
      * a table that stores an entity has one column as its primary key,
      * a column with a reference refers to the primary key of a table that
        stores an entity, and has its type (`ForeignKeyIn`),
      * the columns of a join table are all of this kind.

  The invariant is kept by adding a foreign key to a table
  (`TableSound.addColumn`) and by putting the table back into its draft
  (`Draft.Sound.replace`).
-/
import SchemaTables.Proofs.Storage.Growth

namespace SchemaTables.Storage

/-! ## §1. Foreign keys. -/

/-- The column `c` of the table `t` is a foreign key that suits the tables
`ts`. -/
structure ForeignKeyIn (ts : OrderedMap Table) (t : Table) (c : Column) :
    Prop where
  refers : ∃ key, c.references = some key ∧ KeyIn ts key c.type
  primary : c.isPrimaryKey = t.isJoinTable
  plain : c.isAutoIncrement = false
  required : t.isJoinTable = true → c.isNullable = false

namespace ForeignKeyIn

variable {ts ts' : OrderedMap Table} {t t' : Table} {c : Column}

theorem references_isSome (h : ForeignKeyIn ts t c) :
    c.references.isSome = true := by
  obtain ⟨key, href, -⟩ := h.refers
  rw [href]
  rfl

theorem mono (h : ForeignKeyIn ts t c) (hgrow : TablesGrow ts ts') :
    ForeignKeyIn ts' t c := by
  obtain ⟨key, href, hkey⟩ := h.refers
  exact ⟨⟨key, href, hgrow.keyIn hkey⟩, h.primary, h.plain, h.required⟩

theorem ofGrows (h : ForeignKeyIn ts t c) (hgrow : t.Grows t') :
    ForeignKeyIn ts t' c := by
  refine ⟨h.refers, ?_, h.plain, ?_⟩
  · rw [hgrow.isJoinTable]
    exact h.primary
  · rw [hgrow.isJoinTable]
    exact h.required

theorem merged (h : ForeignKeyIn ts t c) (new : Column) :
    ForeignKeyIn ts t (c.merged new) := by
  refine ⟨h.refers, h.primary, h.plain, ?_⟩
  intro hjoin
  show (c.isNullable && new.isNullable) = false
  rw [h.required hjoin, Bool.false_and]

/-- Foreign keys of one name and to one key differ in their nullability
only. -/
theorem shape_eq {c' : Column} (h : ForeignKeyIn ts t c)
    (h' : ForeignKeyIn ts t c') (hname : c'.name = c.name)
    (href : c'.references = c.references) : c'.shape = c.shape := by
  obtain ⟨key, hkey, hin⟩ := h.refers
  obtain ⟨key', hkey', hin'⟩ := h'.refers
  have heq : key' = key := by
    rw [hkey, hkey'] at href
    exact Option.some.inj href
  subst heq
  unfold Column.shape
  rw [hname, href, hin'.type_unique hin, h.primary, h'.primary, h.plain,
    h'.plain]

end ForeignKeyIn

/-! ## §2. Tables. -/

/-- The table `t` is sound among the tables `ts`. -/
structure TableSound (ts : OrderedMap Table) (t : Table) : Prop where
  distinct : (t.columns.map Column.name).Nodup
  foreign : ∀ c ∈ t.columns,
    c.references.isSome = true ∨ t.isJoinTable = true → ForeignKeyIn ts t c
  key : t.isJoinTable = false → ∃ c, t.primaryKey = [c]

namespace TableSound

variable {ts ts' : OrderedMap Table} {t t' : Table} {new : Column}

theorem mono (h : TableSound ts t) (hgrow : TablesGrow ts ts') :
    TableSound ts' t :=
  ⟨h.distinct, fun c hc href => (h.foreign c hc href).mono hgrow, h.key⟩

/-- A join table without columns. -/
theorem emptyJoin (ts : OrderedMap Table) (name : String) :
    TableSound ts { name := name, entity := none, columns := [] } :=
  ⟨List.nodup_nil, fun _ hc => by simp at hc, fun h => by cases h⟩

theorem grows (hnew : ForeignKeyIn ts t new)
    (hadd : t.addColumn new = .ok t') : t.Grows t' :=
  .of_addColumn hadd hnew.references_isSome hnew.primary

theorem addColumn (h : TableSound ts t) (hnew : ForeignKeyIn ts t new)
    (hadd : t.addColumn new = .ok t') : TableSound ts t' := by
  have hgrows := grows hnew hadd
  rw [addColumn_eq_ok] at hadd
  obtain ⟨cols, hcols, rfl⟩ := hadd
  refine ⟨nodup_addTo hcols h.distinct, ?_, ?_⟩
  · intro c hc href
    apply ForeignKeyIn.ofGrows _ hgrows
    rcases mem_addTo hcols hc with hold | rfl | ⟨old, hold, -, hsame, rfl⟩
    · exact h.foreign c hold href
    · exact hnew
    · -- what was merged into was a foreign key already
      have hsome := (Column.references_of_sameReference hsame).1
      exact (h.foreign old hold (.inl hsome)).merged new
  · -- a foreign key never joins the primary key of an entity
    intro hentity
    obtain ⟨key, hkey⟩ := h.key hentity
    obtain ⟨key', hkey', -⟩ := hgrows.primaryKey hentity hkey
    exact ⟨key', hkey'⟩

end TableSound

/-! ## §3. Drafts. -/

/-- All tables of a draft are sound, and the table of each entity is there. -/
structure Draft.Sound (d : Draft) : Prop where
  stored : ∀ k t, d.tables.get? k = some t → t.name = k
  table : ∀ k t, d.tables.get? k = some t → TableSound d.tables t
  entity : ∀ e k, d.entityTables.get? e = some k →
    ∃ t, d.tables.get? k = some t ∧ t.entity = some e

/-- The tables have grown, and only join tables are new. -/
structure Draft.Grows (d d' : Draft) : Prop where
  entityTables : d'.entityTables = d.entityTables
  tables : TablesGrow d.tables d'.tables
  new : ∀ k t, d'.tables.get? k = some t → t.isJoinTable = false →
    ∃ t₀, d.tables.get? k = some t₀

/-- The column `key` is the primary key, of type `type`, of the table of
`entity`. -/
structure Draft.IsKeyOf (d : Draft) (entity : String) (key : ColumnRef)
    (type : ColumnType) : Prop where
  table : d.entityTables.get? entity = some key.table
  key : KeyIn d.tables key type

namespace Draft

variable {d d' d'' : Draft} {t t' : Table} {entity : String}
  {key : ColumnRef} {type : ColumnType}

theorem Grows.refl (d : Draft) : d.Grows d :=
  ⟨rfl, TablesGrow.refl _, fun _ t ht _ => ⟨t, ht⟩⟩

theorem Grows.trans (h : d.Grows d') (h' : d'.Grows d'') : d.Grows d'' := by
  refine ⟨h'.entityTables.trans h.entityTables, h.tables.trans h'.tables, ?_⟩
  intro k t ht hentity
  obtain ⟨t₁, ht₁⟩ := h'.new k t ht hentity
  obtain ⟨t₂, ht₂, hgrows⟩ := h'.tables k t₁ ht₁
  rw [ht] at ht₂
  cases ht₂
  -- a table that stores an entity did so in between
  exact h.new k t₁ ht₁ (hgrows.isJoinTable ▸ hentity)

theorem IsKeyOf.mono (h : d.IsKeyOf entity key type) (hgrow : d.Grows d') :
    d'.IsKeyOf entity key type :=
  ⟨by rw [hgrow.entityTables]; exact h.table, hgrow.tables.keyIn h.key⟩

/-- An entity has one key, of one type. -/
theorem IsKeyOf.unique {key' : ColumnRef} {type' : ColumnType}
    (h : d.IsKeyOf entity key type) (h' : d.IsKeyOf entity key' type') :
    key = key' ∧ type = type' := by
  have htable := h.table
  rw [h'.table] at htable
  have hkey := h.key.unique h'.key (Option.some.inj htable).symm
  subst hkey
  exact ⟨rfl, h.key.type_unique h'.key⟩

theorem get?_replace (d : Draft) (t' : Table) :
    (d.replace t').tables.get? t'.name = some t' :=
  OrderedMap.get?_insert_self _ _ _

/-- A table of the draft after a replacement is the one put in or an old
one of another name. -/
theorem get?_replace_cases {k : String}
    (h : (d.replace t').tables.get? k = some t) :
    (k = t'.name ∧ t = t') ∨ (k ≠ t'.name ∧ d.tables.get? k = some t) := by
  by_cases hk : t'.name = k
  · subst hk
    rw [get?_replace] at h
    cases h
    exact .inl ⟨rfl, rfl⟩
  · right
    refine ⟨fun e => hk e.symm, ?_⟩
    have := OrderedMap.get?_insert_of_ne (m := d.tables) (v := t') hk
    rw [← this]
    exact h

theorem grows_replace (h : ∀ t, d.tables.get? t'.name = some t → t.Grows t')
    (hnew : t'.isJoinTable = false → ∃ t, d.tables.get? t'.name = some t) :
    d.Grows (d.replace t') := by
  refine ⟨rfl, TablesGrow.insert h, ?_⟩
  intro k t ht hentity
  rcases get?_replace_cases ht with ⟨rfl, rfl⟩ | ⟨-, hold⟩
  · exact hnew hentity
  · exact ⟨t, hold⟩

namespace Sound

/-- Putting a sound table that has grown in the place of the old one. -/
theorem replace (h : d.Sound) (ht' : TableSound d.tables t')
    (hgrows : ∀ t, d.tables.get? t'.name = some t → t.Grows t') :
    (d.replace t').Sound := by
  -- the other tables stay sound because all that they refer to stays
  have hgrow : TablesGrow d.tables (d.replace t').tables :=
    TablesGrow.insert hgrows
  refine ⟨?_, ?_, ?_⟩
  · intro k t ht
    rcases get?_replace_cases ht with ⟨rfl, rfl⟩ | ⟨-, hold⟩
    · rfl
    · exact h.stored k t hold
  · intro k t ht
    rcases get?_replace_cases ht with ⟨-, rfl⟩ | ⟨-, hold⟩
    · exact ht'.mono hgrow
    · exact (h.table k t hold).mono hgrow
  · intro e k hk
    obtain ⟨t, ht, hentity⟩ := h.entity e k hk
    obtain ⟨t₁, ht₁, hgrows₁⟩ := hgrow k t ht
    exact ⟨t₁, ht₁, hgrows₁.entity.trans hentity⟩

/-- What it means to be the table of an entity. -/
theorem entityTable (h : d.Sound) (ht : d.entityTable? entity = some t) :
    d.entityTables.get? entity = some t.name ∧
      d.tables.get? t.name = some t ∧ t.entity = some entity := by
  unfold entityTable? at ht
  rw [Option.bind_eq_some_iff] at ht
  obtain ⟨k, hk, ht⟩ := ht
  obtain ⟨t₁, ht₁, hentity⟩ := h.entity entity k hk
  have hname := h.stored k t ht
  subst hname
  rw [ht] at ht₁
  cases ht₁
  exact ⟨hk, ht, hentity⟩

/-- Every entity that has a table has a table and a primary key. -/
theorem lookups (h : d.Sound) {k : String}
    (hk : d.entityTables.get? entity = some k) :
    ∃ t key type, d.entityTable? entity = some t ∧ t.name = k ∧
      d.primaryKey? entity = some (key, type) := by
  obtain ⟨t, ht, hentity⟩ := h.entity entity k hk
  have htable : d.entityTable? entity = some t := by
    unfold entityTable?
    rw [hk]
    exact ht
  obtain ⟨c, hc⟩ := (h.table k t ht).key (Table.not_isJoinTable hentity)
  refine ⟨t, t.ref c.name, c.type, htable, h.stored k t ht, ?_⟩
  simp [primaryKey?, htable, hc]

/-- The primary key that is looked up is the one of the entity's table. -/
theorem isKeyOf (h : d.Sound)
    (hkey : d.primaryKey? entity = some (key, type)) :
    d.IsKeyOf entity key type := by
  unfold primaryKey? at hkey
  simp only [bind, Option.bind_eq_some_iff] at hkey
  obtain ⟨t, ht, c, hhead, hpair⟩ := hkey
  cases hpair
  obtain ⟨htable, hget, hentity⟩ := h.entityTable ht
  have hjoin := Table.not_isJoinTable hentity
  obtain ⟨c', hc'⟩ := (h.table _ t hget).key hjoin
  rw [hc'] at hhead
  cases hhead
  exact ⟨htable, t, c, hget, hjoin, hc', rfl, rfl⟩

/-- What is looked up is the one primary key. -/
theorem primaryKey?_iff (h : d.Sound) :
    d.primaryKey? entity = some (key, type) ↔ d.IsKeyOf entity key type := by
  constructor
  · exact h.isKeyOf
  · intro hkey
    obtain ⟨-, key', type', -, -, hfound⟩ := h.lookups hkey.table
    obtain ⟨rfl, rfl⟩ := hkey.unique (h.isKeyOf hfound)
    exact hfound

end Sound

/-- What is looked up stays. -/
theorem Grows.primaryKey?_eq (h : d.Grows d') (hd : d.Sound) (hd' : d'.Sound)
    (n : String) : d'.primaryKey? n = d.primaryKey? n := by
  cases hk : d.entityTables.get? n with
  | none => simp [primaryKey?, entityTable?, h.entityTables, hk]
  | some k =>
      obtain ⟨-, key, type, -, -, hkey⟩ := hd.lookups hk
      rw [hkey, hd'.primaryKey?_iff]
      exact (hd.isKeyOf hkey).mono h

end Draft

end SchemaTables.Storage
