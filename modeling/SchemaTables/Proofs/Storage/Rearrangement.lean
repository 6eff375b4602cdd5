/-
  SchemaTables.Proofs.Storage.Rearrangement
  ─────────────────────────────────────────
  **THE ORDER OF A SCHEMA DOES NOT MATTER.**

  Of two schemas that differ in the order of entities and fields only, both
  of which can be stored, the models differ in order only
  (`build_rearranged`).

  Columns are made by whichever side of an association comes first, and the
  other side finds them.  But what an association asks for is the same in
  both schemas: it depends on the tables that are laid out, on how many
  associations there are between two entities, and on nothing that was stored
  before.  So both runs make the same requests in different orders, and for a
  table their order does not matter (`perm_addAll`).
-/
import SchemaTables.Proofs.Elaboration.Keyed
import SchemaTables.Proofs.Rearrangement
import SchemaTables.Proofs.Storage.Requests

namespace SchemaTables.Storage

open Elaboration

/-! ## §1. Models in another order. -/

/-- The table `t'` is `t` with its columns in any order. -/
structure Table.Rearranged (t t' : Table) : Prop where
  name : t'.name = t.name
  entity : t'.entity = t.entity
  columns : t.columns.Perm t'.columns

theorem Table.Rearranged.symm {t t' : Table} (h : t.Rearranged t') :
    t'.Rearranged t :=
  ⟨h.name.symm, h.entity.symm, h.columns.symm⟩

/-- The draft `d'` has the tables of `d`, each with its columns in any
order. -/
structure Draft.Rearranged (d d' : Draft) : Prop where
  entityTables : ∀ n, d.entityTables.get? n = d'.entityTables.get? n
  tables : ∀ k, Option.Rel Table.Rearranged (d.tables.get? k)
    (d'.tables.get? k)

/-- The model `m'` is `m` with its tables, their columns and the relations in
any order. -/
structure Model.Rearranged (m m' : Model) : Prop where
  keys : m.tables.keys.Perm m'.tables.keys
  tables : ∀ k t t', m.table? k = some t → m'.table? k = some t' →
    t.Rearranged t'
  relations : m.relations.Perm m'.relations

/-! ## §2. The tables that are laid out. -/

section Layout

variable {s s' : Schema} {e e' : Entity} {t t' : Table} {d d' : Draft}

/-- The column of a field does not depend on the entity. -/
theorem fieldColumn_toOption (e e' : Entity) (f : Field) :
    (fieldColumn e f).toOption = (fieldColumn e' f).toOption := by
  unfold fieldColumn
  split
  · rfl
  · split <;> rfl

theorem FieldColumns.columns_eq {fs : List Field} (h : FieldColumns e fs t) :
    t.columns = fs.filterMap fun f => (fieldColumn e f).toOption :=
  eq_filterMap_of_forall₂
    (h.columns.imp fun _ _ hcol => toOption_eq_some.mpr hcol)

theorem IsEntityTable.rearranged (h : IsEntityTable e t)
    (h' : IsEntityTable e' t') (he : e.Rearranged e') : t.Rearranged t' := by
  refine ⟨?_, ?_, ?_⟩
  · rw [h.name, h'.name]
    unfold tableName
    rw [he.plural]
  · rw [h.entity, h'.entity, he.name]
  · obtain ⟨u, hu, hcolumns⟩ := h.columns
    obtain ⟨u', hu', hcolumns'⟩ := h'.columns
    have hperm : u.columns.Perm u'.columns := by
      rw [hu.columns_eq, hu'.columns_eq]
      simp only [fieldColumn_toOption e' e]
      exact he.primitiveFields.filterMap _
    -- a key is missing in both or in none
    have hkeys : u.primaryKey.isEmpty = u'.primaryKey.isEmpty :=
      (hperm.filter _).isEmpty_eq
    rw [hcolumns, hcolumns', hkeys]
    split
    · exact hperm.cons numberedKey
    · exact hperm

/-- The tables of an entity in two layouts. -/
theorem LaidOut.entityTables_eq (hkeyed : s.EntitiesKeyed)
    (hre : s.Rearranged s') (h : LaidOut s.toList d)
    (h' : LaidOut s'.toList d') {n k : String}
    (hk : d.entityTables.get? n = some k) :
    d'.entityTables.get? n = some k := by
  obtain ⟨e, he, rfl⟩ := (h.entityTable_iff hkeyed).mp hk
  obtain ⟨e', he', hsame⟩ := hre.get? he
  rw [h'.entityTable_iff (hre.entitiesKeyed hkeyed)]
  refine ⟨e', he', ?_⟩
  unfold tableName
  rw [hsame.plural]

/-- What is laid out for one schema is laid out for the other. -/
theorem LaidOut.table_of_rearranged (hkeyed : s.EntitiesKeyed)
    (hre : s.Rearranged s') (h : LaidOut s.toList d)
    (h' : LaidOut s'.toList d') {k : String}
    (hk : d.tables.get? k = some t) :
    ∃ t', d'.tables.get? k = some t' ∧ t.Rearranged t' := by
  obtain ⟨rfl, e, he, htable⟩ := h.table k t hk
  have hentity := (h.entityTable_iff hkeyed).mpr
    ⟨e, hkeyed.get?_name he, htable.name.symm⟩
  obtain ⟨t', ht', hn⟩ :=
    h'.entity _ _ (h.entityTables_eq hkeyed hre h' hentity)
  obtain ⟨-, e', he', htable'⟩ := h'.table _ t' ht'
  rw [htable'.entity, Option.some.injEq] at hn
  exact ⟨t', ht', htable.rearranged htable'
    (hre.of_name hkeyed he he' hn.symm)⟩

theorem LaidOut.rearranged (hkeyed : s.EntitiesKeyed)
    (hre : s.Rearranged s') (h : LaidOut s.toList d)
    (h' : LaidOut s'.toList d') : d.Rearranged d' := by
  have hkeyed' := hre.entitiesKeyed hkeyed
  constructor
  · intro n
    apply Option.ext
    intro k
    exact ⟨h.entityTables_eq hkeyed hre h',
      h'.entityTables_eq hkeyed' hre.symm h⟩
  · intro k
    cases hk : d.tables.get? k with
    | some t =>
        obtain ⟨t', hk', ht⟩ := h.table_of_rearranged hkeyed hre h' hk
        rw [hk']
        exact .some ht
    | none =>
        cases hk' : d'.tables.get? k with
        | none => exact .none
        | some t' =>
            obtain ⟨t, ht, -⟩ := h'.table_of_rearranged hkeyed' hre.symm h hk'
            rw [hk] at ht
            cases ht

end Layout

/-! ## §3. What is looked up in them. -/

namespace Draft.Rearranged

variable {d d' : Draft}

theorem get? (h : d.Rearranged d') {k : String} {t : Table}
    (hk : d.tables.get? k = some t) :
    ∃ t', d'.tables.get? k = some t' ∧ t.Rearranged t' := by
  have hrel := h.tables k
  rw [hk] at hrel
  generalize d'.tables.get? k = o at hrel
  cases hrel with
  | some ht => exact ⟨_, rfl, ht⟩

theorem symm (h : d.Rearranged d') : d'.Rearranged d := by
  refine ⟨fun n => (h.entityTables n).symm, ?_⟩
  intro k
  have hrel := h.tables k
  generalize d.tables.get? k = o, d'.tables.get? k = o' at hrel
  cases hrel with
  | some ht => exact .some ht.symm
  | none => exact .none

theorem exists_get?_iff (h : d.Rearranged d') {k : String} :
    (∃ t, d.tables.get? k = some t) ↔ ∃ t, d'.tables.get? k = some t := by
  have hrel := h.tables k
  generalize d.tables.get? k = o, d'.tables.get? k = o' at hrel
  cases hrel <;> simp

theorem tableAt (h : d.Rearranged d') (k : String) :
    (d.tableAt k).Rearranged (d'.tableAt k) := by
  have hrel := h.tables k
  unfold Draft.tableAt
  generalize d.tables.get? k = o, d'.tables.get? k = o' at hrel
  cases hrel with
  | some ht => exact ht
  | none => exact ⟨rfl, rfl, .refl _⟩

/-- The one column of the primary key is the same. -/
theorem isKeyOf (h : d.Rearranged d') {n : String} {key : ColumnRef}
    {type : ColumnType} (hkey : d.IsKeyOf n key type) :
    d'.IsKeyOf n key type := by
  obtain ⟨t, c, ht, hjoin, hprimary, hname, htype⟩ := hkey.key
  obtain ⟨t', ht', hsame⟩ := h.get? ht
  have hprimary' : t'.primaryKey = [c] := by
    have hperm : t.primaryKey.Perm t'.primaryKey := hsame.columns.filter _
    rw [hprimary] at hperm
    exact hperm.symm.eq_singleton
  refine ⟨(h.entityTables n).symm.trans hkey.table, t', c, ht', ?_, hprimary',
    hname, htype⟩
  unfold Table.isJoinTable
  rw [hsame.entity]
  exact hjoin

theorem primaryKey?_eq (h : d.Rearranged d') (hd : d.Sound) (hd' : d'.Sound)
    (n : String) : d.primaryKey? n = d'.primaryKey? n := by
  apply Option.ext
  intro ⟨key, type⟩
  rw [hd.primaryKey?_iff, hd'.primaryKey?_iff]
  exact ⟨h.isKeyOf, h.symm.isKeyOf⟩

end Draft.Rearranged

/-! ## §4. What is asked for. -/

section Requests

variable {s s' : Schema} {e e' : Entity} {f : Field}

theorem inverses_perm (hre : s.Rearranged s') (he : e.Rearranged e')
    (f : Field) (test : Association → Bool) :
    (inverses s e f test).Perm (inverses s' e' f test) := by
  unfold inverses
  rw [he.name]
  cases hget : s.get? f.baseType with
  | some target =>
      obtain ⟨target', hget', htarget⟩ := hre.get? hget
      rw [hget']
      exact htarget.associationsTo e.name test
  | none =>
      cases hget' : s'.get? f.baseType with
      | none => exact .refl _
      | some target' =>
          obtain ⟨target, htarget, -⟩ := hre.symm.get? hget'
          rw [hget] at htarget
          cases htarget

theorem sharesJoinTable_eq (hre : s.Rearranged s') (he : e.Rearranged e')
    (f : Field) : sharesJoinTable s e f = sharesJoinTable s' e' f := by
  unfold sharesJoinTable
  rw [he.name, (he.associationsTo _ _).length_eq,
    (inverses_perm hre he f _).length_eq]

/-- Lists that differ in order only are equal unless they have two
elements. -/
theorem eq_or_two_of_perm {α : Type} :
    ∀ {l l' : List α}, l.Perm l' → l = l' ∨ ∃ a b rest a' b' rest',
      l = a :: b :: rest ∧ l' = a' :: b' :: rest'
  | [], l', h => .inl (List.nil_perm.mp h).symm
  | [a], l', h => .inl h.symm.eq_singleton.symm
  | a :: b :: rest, a' :: b' :: rest', _ =>
      .inr ⟨a, b, rest, a', b', rest', rfl, rfl⟩
  | _ :: _ :: _, [], h => by cases h.length_eq
  | _ :: _ :: _, [_], h => by cases h.length_eq

/-- A name is taken from another field only if there is just one. -/
theorem foreignName_eq (hre : s.Rearranged s') (he : e.Rearranged e')
    (f : Field) : foreignName s e f = foreignName s' e' f := by
  have hown := he.associationsTo f.baseType Association.isHas
  have hback := inverses_perm hre he f (· = .belongsTo)
  unfold foreignName
  rw [he.name]
  generalize e.associationsTo f.baseType Association.isHas = own,
    e'.associationsTo f.baseType Association.isHas = own' at hown ⊢
  generalize inverses s e f (· = .belongsTo) = back,
    inverses s' e' f (· = .belongsTo) = back' at hback ⊢
  rcases eq_or_two_of_perm hown with rfl | ⟨_, _, _, _, _, _, rfl, rfl⟩ <;>
    rcases eq_or_two_of_perm hback with rfl | ⟨_, _, _, _, _, _, rfl, rfl⟩
  · rfl
  · -- several fields lead back
    match own with
    | [] => rfl
    | [_] => rfl
    | _ :: _ :: _ => rfl
  · -- several fields of the entity lead to the target
    match back with
    | [] => rfl
    | [_] => rfl
    | _ :: _ :: _ => rfl
  · rfl

/-- The same association asks for the same. -/
theorem request?_eq {d d' : Draft} (hd : d.Sound) (hd' : d'.Sound)
    (h : d.Rearranged d') (hre : s.Rearranged s')
    {a a' : Entity × Field × Association} (he : a.1.Rearranged a'.1)
    (hf : a.2 = a'.2) : request? s d a = request? s' d' a' := by
  obtain ⟨e, f, kind⟩ := a
  obtain ⟨e', f', kind'⟩ := a'
  cases hf
  dsimp only at he
  have hrelation : ∀ l, relationOf (e, f, kind) l
      = relationOf (e', f, kind) l := by
    intro l
    unfold relationOf
    rw [he.name]
  have hfar : farName e f = farName e' f := by
    unfold farName
    rw [he.name]
  cases kind <;>
    simp only [request?, h.primaryKey?_eq hd hd', h.entityTables, hrelation,
      hfar, foreignName_eq hre he, sharesJoinTable_eq hre he, he.name]

end Requests

/-! ## §5. The model. -/

section Models

variable {s s' : Schema} {m m' : Model}

/-- Two models of one schema in two orders differ in order only, and the
association of a field has the same relation in both. -/
theorem build_rearranged (hkeyed : s.EntitiesKeyed) (hre : s.Rearranged s')
    (h : build s = .ok m) (h' : build s' = .ok m') :
    m.Rearranged m' ∧
      ∀ x ∈ s.associations.zip m.relations,
      ∀ y ∈ s'.associations.zip m'.relations,
        x.1.1.name = y.1.1.name → x.1.2 = y.1.2 → x.2 = y.2 := by
  obtain ⟨d₀, qs, d, hlaid, hm, hd, hful⟩ := build_fulfilled h
  obtain ⟨d₀', qs', d', hlaid', hm', hd', hful'⟩ := build_fulfilled h'
  have hdrafts := hlaid.rearranged hkeyed hre hlaid'
  have hsame : ∀ {a a' : Entity × Field × Association},
      a.1.Rearranged a'.1 → a.2 = a'.2 →
        request? s d₀ a = request? s' d₀' a' := fun he hf =>
    request?_eq hlaid.sound hlaid'.sound hdrafts hre he hf
  have hqs : qs.Perm qs' := by
    obtain ⟨as, hperm, has⟩ := hre.associations
    have hrequests : List.Forall₂
        (fun a a' => request? s d₀ a = request? s' d₀' a') as s'.associations :=
      has.imp fun a a' hab => hsame hab.1 hab.2
    rw [eq_filterMap_of_forall₂ hful.requests,
      eq_filterMap_of_forall₂ hful'.requests,
      ← filterMap_eq_of_forall₂ hrequests]
    exact hperm.filterMap _
  refine ⟨⟨?_, ?_, ?_⟩, ?_⟩
  · rw [List.perm_ext_iff_of_nodup m.tables.keys_nodup m'.tables.keys_nodup]
    intro k
    rw [OrderedMap.mem_keys_iff, OrderedMap.mem_keys_iff, hm, hm',
      hful.present, hful'.present, hdrafts.exists_get?_iff]
    simp only [hqs.mem_iff]
  · intro k t t' ht ht'
    unfold Model.table? at ht ht'
    rw [hm] at ht
    rw [hm'] at ht'
    have htable := hdrafts.tableAt k
    refine ⟨?_, ?_, ?_⟩
    · rw [hd.stored k t ht, hd'.stored k t' ht']
    · rw [← tableAt_of_get? ht, ← tableAt_of_get? ht', hful.entity,
        hful'.entity, htable.entity]
    · rw [← tableAt_of_get? ht, ← tableAt_of_get? ht']
      exact perm_addAll (hlaid.sound.nodup_tableAt k) htable.columns
        (perm_columnsFor k hqs) (hful.shape_eq hlaid k) (hful.columns k)
        (hful'.columns k)
  · rw [hful.relations, hful'.relations]
    exact hqs.map _
  · intro ⟨a, r⟩ hx ⟨a', r'⟩ hy hname hf
    obtain ⟨q, hq, rfl⟩ := hful.relation_of_zip hx
    obtain ⟨q', hq', rfl⟩ := hful'.relation_of_zip hy
    have ha := Schema.mem_associations.mp (List.of_mem_zip hx).1
    have ha' := Schema.mem_associations.mp (List.of_mem_zip hy).1
    rw [hsame (hre.of_name hkeyed ha.1 ha'.1 hname) hf, hq'] at hq
    cases hq
    rfl

end Models

/-- The associations that are stored by a column, in the order in which they
ask for it. -/
def Model.kindsAt (m : Model) (column : ColumnRef) : List Association :=
  (m.relations.filter fun r => r.link.foreignKey? = some column).map
    Relation.kind

/-- Authors, books and tags, and the same from last to first: the foreign key
of books is made by the one side of an association here and by the other
there. -/
theorem build_rearranged_bookshelf :
    ∃ s m m', (elaborate {} [bookshelf]).result = .ok s ∧ build s = .ok m ∧
      build s.turned = .ok m' ∧
      m.kindsAt ⟨"books", "author_id"⟩ = [.hasMany, .belongsTo] ∧
      m'.kindsAt ⟨"books", "author_id"⟩ = [.belongsTo, .hasMany] ∧
      m.Rearranged m' ∧
      ∀ x ∈ s.associations.zip m.relations,
      ∀ y ∈ s.turned.associations.zip m'.relations,
        x.1.1.name = y.1.1.name → x.1.2 = y.1.2 → x.2 = y.2 := by
  have hrun : (modelOf [bookshelf]).bind (fun sm =>
      (build sm.1.turned).toOption.map fun m' =>
        (sm.2.kindsAt ⟨"books", "author_id"⟩,
          m'.kindsAt ⟨"books", "author_id"⟩)) =
      some ([.hasMany, .belongsTo], [.belongsTo, .hasMany]) := by
    decide +kernel
  obtain ⟨⟨s, m⟩, hmodel, hturned⟩ := Option.bind_eq_some_iff.mp hrun
  obtain ⟨m', hm', hkinds⟩ := Option.map_eq_some_iff.mp hturned
  obtain ⟨hs, hm⟩ := modelOf_eq_some.mp hmodel
  rw [toOption_eq_some] at hm'
  rw [Prod.mk.injEq] at hkinds
  obtain ⟨hmodels, hlinks⟩ := build_rearranged
    (wellKeyed_of_elaborate hs).entitiesKeyed s.rearranged_turned hm hm'
  exact ⟨s, m, m', hs, hm, hm', hkinds.1, hkinds.2, hmodels, hlinks⟩

end SchemaTables.Storage
