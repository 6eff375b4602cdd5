/-
  SchemaTables.Proofs.Storage.EntityTables
  ────────────────────────────────────────
  **THE TABLES OF THE ENTITIES.**

  The table of an entity has three groups of columns, in this order:

      the numbered key, if no field is the key;
      the columns of the fields without an association, in their order;
      the foreign keys.

  The first two are laid out before any association is stored (`OwnColumns`).
  Storing associations only ever adds to the third, whichever of them are
  stored (`Fulfilled.keeps`): what would touch one of the others is an error.
  So a model starts with the tables of the entities, each as it was laid out
  and with its foreign keys behind, and the join tables follow
  (`build_entitiesFirst`).
-/
import SchemaTables.Proofs.Storage.Requests
import SchemaTables.Proofs.Storage.TableOrder

namespace SchemaTables.Storage

open Elaboration Text

/-! ## §1. The columns of an entity. -/

/-- The column `c` holds the values of the field `f`. -/
structure Column.Stores (c : Column) (f : Field) : Prop where
  name : c.name = snakeCase f.name
  type : ∃ p : Primitive, f.baseType = p.name ∧
    c.type = if f.isList then .json else .ofPrimitive p
  nullable : c.isNullable = true ↔ f.nullable = true ∧ f.name ≠ "id"
  primaryKey : c.isPrimaryKey = true ↔ f.name = "id"
  autoIncrement : c.isAutoIncrement = true ↔
    f.name = "id" ∧ f.baseType = "Int"
  references : c.references = none

/-- The columns of the table of `e` before any association is stored. -/
def OwnColumns (e : Entity) (own : List Column) : Prop :=
  ∃ cols, List.Forall₂ (fun f c => Column.Stores c f) e.primitiveFields cols ∧
    own = if ∃ f ∈ e.primitiveFields, f.name = "id" then cols
      else numberedKey :: cols

theorem fieldColumn_stores {e : Entity} {f : Field} {c : Column}
    (h : fieldColumn e f = .ok c) : c.Stores f := by
  unfold fieldColumn at h
  split at h
  · cases h
  · next p hp =>
      split at h
      · cases h
      · next hlist =>
          cases h
          have hbase : f.baseType = p.name := by
            have hfound := List.find?_some hp
            rw [decide_eq_true_eq] at hfound
            exact hfound.symm
          refine ⟨rfl, ⟨p, hbase, rfl⟩, ?_, decide_eq_true_iff, ?_, rfl⟩
          · show (!decide (f.name = keyField) && f.nullable) = true ↔ _
            rw [Bool.and_eq_true, Bool.not_eq_true', decide_eq_false_iff_not,
              and_comm]
            rfl
          · -- the key holds no list, so its type is the one of the primitive
            have htype : f.name = keyField →
                ((columnOf f p).type = .int ↔ f.baseType = "Int") := by
              intro hkey
              have hsingle : f.isList = false := by simpa [hkey] using hlist
              rw [hbase]
              show (if f.isList then .json else ColumnType.ofPrimitive p) =
                ColumnType.int ↔ _
              rw [hsingle]
              cases p <;> decide
            show (decide (f.name = keyField) &&
              decide ((columnOf f p).type = .int)) = true ↔ _
            rw [Bool.and_eq_true, decide_eq_true_eq, decide_eq_true_eq]
            exact and_congr_right htype

/-- There is a key among the columns of fields if one of them is the key. -/
theorem FieldColumns.primaryKey_isEmpty {e : Entity} {fs : List Field}
    {t : Table} (h : FieldColumns e fs t) :
    t.primaryKey.isEmpty = true ↔ ¬ ∃ f ∈ fs, f.name = "id" := by
  rw [List.isEmpty_iff, Table.primaryKey, List.filter_eq_nil_iff]
  constructor
  · intro hnone hx
    obtain ⟨f, hf, hkey⟩ := hx
    obtain ⟨c, hc, hcol⟩ := exists_right_of_forall₂ h.columns f hf
    exact hnone c hc ((fieldColumn_stores hcol).primaryKey.mpr hkey)
  · intro hnone c hc hkey
    obtain ⟨f, hf, hcol⟩ := exists_left_of_forall₂ h.columns c hc
    exact hnone ⟨f, hf, (fieldColumn_stores hcol).primaryKey.mp hkey⟩

namespace IsEntityTable

variable {e : Entity} {t : Table}

theorem ownColumns (h : IsEntityTable e t) : OwnColumns e t.columns := by
  obtain ⟨u, hu, hcolumns⟩ := h.columns
  refine ⟨u.columns, hu.columns.imp fun f c => fieldColumn_stores, ?_⟩
  rw [hcolumns]
  by_cases hkey : ∃ f ∈ e.primitiveFields, f.name = "id"
  · rw [if_pos hkey, if_neg]
    exact fun hempty => hu.primaryKey_isEmpty.mp hempty hkey
  · rw [if_neg hkey, if_pos (hu.primaryKey_isEmpty.mpr hkey)]

/-- The key, numbered or not, has one name. -/
theorem exists_key (h : IsEntityTable e t) :
    ∃ c, t.primaryKey = [c] ∧ c.name = "id" := by
  obtain ⟨c, hc⟩ := h.key
  refine ⟨c, hc, ?_⟩
  have hmem : c ∈ t.primaryKey := by
    rw [hc]
    exact List.mem_singleton_self c
  rw [Table.primaryKey, List.mem_filter] at hmem
  obtain ⟨hmem, hkey⟩ := hmem
  obtain ⟨u, hu, hcolumns⟩ := h.columns
  have hname : columnName keyField = "id" := by decide
  rw [hcolumns] at hmem
  split at hmem
  · rcases List.mem_cons.mp hmem with rfl | hmem
    · rfl
    · rw [hu.keyName c hmem hkey, hname]
  · rw [hu.keyName c hmem hkey, hname]

end IsEntityTable

/-! ## §2. Foreign keys behind. -/

/-- The table `t` stores the entity `e`. -/
structure Table.Stores (t : Table) (e : Entity) : Prop where
  name : t.name = snakeCase e.pluralName
  entity : t.entity = some e.name
  columns : ∃ own foreign, t.columns = own ++ foreign ∧ OwnColumns e own ∧
    ∀ c ∈ foreign, c.references.isSome = true
  key : ∃ c, t.primaryKey = [c] ∧ c.name = "id"

/-- The draft `d` has every table of `d₀`, with all of its columns as they
were and in front, and nothing but foreign keys behind them. -/
def Draft.Keeps (d₀ d : Draft) : Prop :=
  ∀ k t₀, d₀.tables.get? k = some t₀ →
    ∃ t foreign, d.tables.get? k = some t ∧ t.entity = t₀.entity ∧
      t.columns = t₀.columns ++ foreign ∧
      ∀ c ∈ foreign, c.references.isSome = true

section Kept

variable {s : Schema} {d₀ d : Draft}
  {as : List (Entity × Field × Association)} {qs : List Request}
  {rels : List Relation} {k : String} {t₀ : Table} {e : Entity}

/-- What is asked for are foreign keys. -/
theorem Fulfilled.references_columnsFor (h : Fulfilled s d₀ as qs d rels) :
    ∀ c ∈ columnsFor k qs, c.references.isSome = true := by
  intro c hc
  obtain ⟨q, hq, -, hmem⟩ := mem_columnsFor.mp hc
  obtain ⟨t, -, hsuits⟩ := h.suits q hq
  exact (hsuits c hmem).references_isSome

/-- The tables that were laid out keep their columns. -/
theorem Fulfilled.keeps (h : Fulfilled s d₀ as qs d rels)
    (hlaid : LaidOut s.toList d₀) : d₀.Keeps d := by
  intro k t₀ ht₀
  obtain ⟨t, ht⟩ := (h.present k).mpr (.inl ⟨t₀, ht₀⟩)
  have hentity := h.entity k
  have hcolumns := h.columns k
  have hplain := hlaid.references_tableAt k
  rw [tableAt_of_get? ht, tableAt_of_get? ht₀] at hentity hcolumns
  rw [tableAt_of_get? ht₀] at hplain
  obtain ⟨foreign, hsplit, hforeign⟩ :=
    addAll_eq_append hplain h.references_columnsFor hcolumns
  exact ⟨t, foreign, ht, hentity, hsplit, hforeign⟩

/-- So the table of an entity stores it. -/
theorem Fulfilled.stores (h : Fulfilled s d₀ as qs d rels) (hd : d.Sound)
    (hlaid : LaidOut s.toList d₀)
    (ht₀ : d₀.tables.get? (tableName e) = some t₀)
    (hlaidOut : IsEntityTable e t₀) :
    ∃ t, d.tables.get? (tableName e) = some t ∧ t.Stores e := by
  obtain ⟨t, foreign, ht, hentity, hcolumns, hforeign⟩ :=
    h.keeps hlaid _ t₀ ht₀
  have howned : t.entity = some e.name := hentity.trans hlaidOut.entity
  -- foreign keys of an entity are no primary keys
  have hnokey : foreign.filter Column.isPrimaryKey = [] := by
    rw [List.filter_eq_nil_iff]
    intro c hc hkey
    have hmem : c ∈ t.columns := by
      rw [hcolumns]
      exact List.mem_append_right _ hc
    have hfk := (hd.table _ t ht).foreign c hmem (.inl (hforeign c hc))
    rw [hfk.primary, Table.not_isJoinTable howned] at hkey
    cases hkey
  refine ⟨t, ht, hd.stored _ t ht, howned,
    ⟨_, foreign, hcolumns, hlaidOut.ownColumns, hforeign⟩, ?_⟩
  obtain ⟨c, hc, hname⟩ := hlaidOut.exists_key
  refine ⟨c, ?_, hname⟩
  rw [Table.primaryKey, hcolumns, List.filter_append, hnokey,
    List.append_nil]
  exact hc

/-- A table that was not laid out stores no entity. -/
theorem Fulfilled.entity_of_new (h : Fulfilled s d₀ as qs d rels)
    {t : Table} (hnone : d₀.tables.get? k = none)
    (ht : d.tables.get? k = some t) : t.entity = none := by
  have hentity := h.entity k
  rw [tableAt_of_get? ht] at hentity
  rw [hentity]
  unfold Draft.tableAt
  rw [hnone]
  rfl

/-- Wherever a run passes, it has succeeded so far. -/
theorem linkAll_of_prefix {done : List (Entity × Field × Association)}
    (hdone : done <+: as) (run : linkAll s as = .ok (d, rels)) :
    ∃ d₁ rels₁, linkAll s done = .ok (d₁, rels₁) := by
  obtain ⟨rest, rfl⟩ := hdone
  unfold linkAll at run ⊢
  rw [bind_eq_ok] at run
  obtain ⟨d₀, hlay, run⟩ := run
  rw [List.foldlM_append, bind_eq_ok] at run
  obtain ⟨⟨d₁, rels₁⟩, hrun, -⟩ := run
  exact ⟨d₁, rels₁, by rw [bind_of_ok hlay, hrun]⟩

end Kept

/-! ## §3. The model. -/

/-- The tables of the model are `own`, those of the entities in their order,
and then `joins`, the join tables, under other names. -/
structure EntitiesFirst (s : Schema) (m : Model)
    (own joins : List (String × Table)) : Prop where
  entries : m.tables.entries = own ++ joins
  own : List.Forall₂ (fun e p => p.1 = tableName e ∧ p.2.Stores e) s.toList
    own
  distinct : (s.toList.map tableName).Nodup
  joins : ∀ p ∈ joins, p.2.entity = none ∧ p.2.name = p.1 ∧
    p.1 ∉ s.toList.map tableName

theorem build_entitiesFirst {s : Schema} {m : Model} (h : build s = .ok m) :
    ∃ own joins, EntitiesFirst s m own joins := by
  obtain ⟨d, rels, hrun, rfl⟩ := build_eq_ok h
  obtain ⟨hsound, d₀, qs, hlay, hful⟩ := linkAll_fulfilled hrun
  have hlaid := layOut_spec hlay
  have hkeys₀ := layOut_keys hlay
  obtain ⟨more, hmore⟩ := addNames_eq_append
    (rels.map fun r => r.link.table) (s.toList.map tableName)
  have hkeys : d.tables.keys = s.toList.map tableName ++ more :=
    (build_keys h).trans hmore
  have hnodup := d.tables.keys_nodup
  rw [hkeys, List.nodup_append] at hnodup
  obtain ⟨hdistinct, -, hapart⟩ := hnodup
  have hentries := d.tables.entries_eq
  rw [hkeys, List.filterMap_append, List.filterMap_map] at hentries
  refine ⟨_, _, hentries, ?_, hdistinct, ?_⟩
  · apply forall₂_filterMap
    intro e he
    obtain ⟨⟨k, t₀⟩, hmem, hk, hlaidOut⟩ :=
      exists_right_of_forall₂ (layOut_entries hlay) e he
    cases hk
    obtain ⟨t, ht, hstores⟩ := hful.stores hsound hlaid
      (OrderedMap.mem_entries_iff.mp hmem) hlaidOut
    refine ⟨(tableName e, t), ?_, rfl, hstores⟩
    show (d.tables.get? (tableName e)).map _ = _
    rw [ht]
    rfl
  · intro p hp
    obtain ⟨k, hk, hp⟩ := List.mem_filterMap.mp hp
    obtain ⟨t, ht, rfl⟩ := Option.map_eq_some_iff.mp hp
    have hnew : k ∉ s.toList.map tableName := fun hmem =>
      hapart k hmem k hk rfl
    have hnone : d₀.tables.get? k = none := by
      rw [← hkeys₀, OrderedMap.mem_keys_iff] at hnew
      exact Option.eq_none_iff_forall_ne_some.mpr fun t ht => hnew ⟨t, ht⟩
    exact ⟨hful.entity_of_new hnone ht, hsound.stored k t ht, hnew⟩

/-- A model starts with the tables of the entities, each with its numbered
key, the columns of its fields and its foreign keys.  From the layout on,
storing associations only changes the foreign keys. -/
theorem entityTables_kept {s : Schema} {m : Model} (h : build s = .ok m) :
    (∃ own joins, EntitiesFirst s m own joins) ∧
      ∃ d₀, layOut s = .ok d₀ ∧
        List.Forall₂ (fun e p => p.1 = tableName e ∧ OwnColumns e p.2.columns)
          s.toList d₀.tables.entries ∧
        ∀ done, done <+: s.associations →
          ∃ d rels, linkAll s done = .ok (d, rels) ∧ d₀.Keeps d := by
  refine ⟨build_entitiesFirst h, ?_⟩
  obtain ⟨d, rels, hrun, rfl⟩ := build_eq_ok h
  obtain ⟨-, d₀, -, hlay, -⟩ := linkAll_fulfilled hrun
  refine ⟨d₀, hlay, (layOut_entries hlay).imp fun e p hp =>
    ⟨hp.1, hp.2.ownColumns⟩, ?_⟩
  intro done hdone
  obtain ⟨d₁, rels₁, hrun₁⟩ := linkAll_of_prefix hdone hrun
  obtain ⟨-, d₀', qs, hlay', hful⟩ := linkAll_fulfilled hrun₁
  rw [hlay] at hlay'
  cases hlay'
  exact ⟨d₁, rels₁, hrun₁, hful.keeps (layOut_spec hlay)⟩

/-- The tables of the bookshelf are kept. -/
theorem entityTables_kept_bookshelf : ∃ s m,
    (elaborate {} [bookshelf]).result = .ok s ∧ build s = .ok m ∧
      (∃ own joins, EntitiesFirst s m own joins) ∧
      ∃ d₀, layOut s = .ok d₀ ∧
        List.Forall₂ (fun e p => p.1 = tableName e ∧ OwnColumns e p.2.columns)
          s.toList d₀.tables.entries ∧
        ∀ done, done <+: s.associations →
          ∃ d rels, linkAll s done = .ok (d, rels) ∧ d₀.Keeps d := by
  obtain ⟨s, m, hs, hm⟩ := bookshelf_model
  exact ⟨s, m, hs, hm, entityTables_kept hm⟩

end SchemaTables.Storage
