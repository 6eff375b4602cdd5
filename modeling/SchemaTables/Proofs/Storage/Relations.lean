/-
  SchemaTables.Proofs.Storage.Relations
  ─────────────────────────────────────
  **EVERY RELATION RESOLVES IN ITS MODEL.**

  A model has one relation per association field, in order, and the link of
  each names columns that are there:

      belongsTo        a column of the entity   →  the key of the target
      hasOne, hasMany  a column of the target   →  the key of the entity
      belongsToMany    two columns of a join table  →  both keys

  Links are recorded while later associations still change the tables; that
  they resolve in the end is what `Running` carries through the run.  Only
  the names of the entities have to be distinct: the keys under which a
  schema holds them play no part.
-/
import SchemaTables.Proofs.Elaboration.Keyed
import SchemaTables.Proofs.Storage.Build

namespace SchemaTables.Storage

/-! ## §1. What a link refers to. -/

/-- The table `t` is the one that stores `entity`. -/
structure Model.Stores (m : Model) (entity : String) (t : Table) : Prop where
  byName : m.table? t.name = some t
  byEntity : m.entityTable? entity = some t
  unique : ∀ u ∈ m.tables.values, u.entity = some entity → u = t

/-- The column `key` is the primary key of the table that stores `entity`. -/
def Model.IsKeyOf (m : Model) (entity : String) (key : ColumnRef) : Prop :=
  ∃ t c, m.Stores entity t ∧ t.primaryKey = [c] ∧ key = t.ref c.name

/-- The column `column` is one of `t` and refers to `key`. -/
def Table.HasForeignKey (t : Table) (column key : ColumnRef) : Prop :=
  column.table = t.name ∧
    ∃ c, t.column? column.column = some c ∧ c.references = some key

/-- The link is one for an association of this kind from `entity` to
`target`, and what it names is in the model. -/
def Link.Resolves (m : Model) (entity target : String) (kind : Association) :
    Link → Prop
  | .manyToOne column key =>
      kind = .belongsTo ∧
        (∃ t, m.Stores entity t ∧ t.HasForeignKey column key) ∧
        m.IsKeyOf target key
  | .oneToMany key column =>
      (kind = .hasOne ∨ kind = .hasMany) ∧
        (∃ t, m.Stores target t ∧ t.HasForeignKey column key) ∧
        m.IsKeyOf entity key
  | .manyToMany table one other =>
      kind = .belongsToMany ∧
        ∃ t key targetKey, m.table? table = some t ∧ t.name = table ∧
          t.entity = none ∧ t.HasForeignKey one key ∧
          t.HasForeignKey other targetKey ∧ m.IsKeyOf entity key ∧
          m.IsKeyOf target targetKey

/-- The relation `r` is the one of the association `a`. -/
structure RelatesIn (m : Model) (a : Entity × Field × Association)
    (r : Relation) : Prop where
  entity : r.entity = a.1.name
  field : r.field = a.2.1.name
  kind : r.kind = a.2.2
  target : r.target = a.2.1.baseType
  link : r.link.Resolves m a.1.name a.2.1.baseType a.2.2

/-! ## §2. From the draft to the model. -/

section Final

variable {s : Schema} {d : Draft} {rels : List Relation} {m : Model}
  {entity : String} {key column : ColumnRef} {type : ColumnType}

theorem find?_of_unique {α : Type} {p : α → Bool} {a : α} {as : List α}
    (hmem : a ∈ as) (hp : p a = true) (hunique : ∀ b ∈ as, p b = true → b = a) :
    as.find? p = some a := by
  cases hfind : as.find? p with
  | none => exact absurd hp (List.find?_eq_none.mp hfind a hmem)
  | some b =>
      have hb := List.mem_of_find?_eq_some hfind
      rw [hunique b hb (List.find?_some hfind)]

/-- The table that a draft has for an entity is the one of the model. -/
theorem Running.stores {as : List (Entity × Field × Association)}
    (h : Running s as d rels) (hnames : (s.toList.map Entity.name).Nodup)
    (hm : m.tables = d.tables) {k : String}
    (hk : d.entityTables.get? entity = some k) :
    ∃ t, d.tables.get? k = some t ∧ t.name = k ∧ m.Stores entity t := by
  obtain ⟨t, ht, hentity⟩ := h.sound.entity entity k hk
  have hname := h.sound.stored k t ht
  have hmem : t ∈ m.tables.values := by
    rw [hm, OrderedMap.mem_values_iff]
    exact ⟨k, ht⟩
  -- another table of this entity would stand under the same key
  have hunique : ∀ u ∈ m.tables.values, u.entity = some entity → u = t := by
    intro u hu hue
    rw [hm, OrderedMap.mem_values_iff] at hu
    obtain ⟨j, hj⟩ := hu
    have hown := h.owner hnames hj hue
    rw [hk] at hown
    cases hown
    rw [ht] at hj
    exact (Option.some.inj hj).symm
  refine ⟨t, ht, hname, ?_, ?_, hunique⟩
  · show m.tables.get? t.name = some t
    rw [hm, hname]
    exact ht
  · apply find?_of_unique hmem
    · exact decide_eq_true hentity
    · intro u hu hue
      exact hunique u hu (of_decide_eq_true hue)

theorem Running.isKeyOf {as : List (Entity × Field × Association)}
    (h : Running s as d rels) (hnames : (s.toList.map Entity.name).Nodup)
    (hm : m.tables = d.tables) (hkey : d.IsKeyOf entity key type) :
    m.IsKeyOf entity key := by
  obtain ⟨t, ht, hname, hstores⟩ := h.stores hnames hm hkey.table
  obtain ⟨t', c, ht', -, hprimary, hc, -⟩ := hkey.key
  rw [ht] at ht'
  cases ht'
  refine ⟨t, c, hstores, hprimary, ?_⟩
  rw [Table.ref, hc, hname]

/-- A column of an entity's table that refers to a key. -/
theorem Running.hasForeignKey {as : List (Entity × Field × Association)}
    (h : Running s as d rels) (hnames : (s.toList.map Entity.name).Nodup)
    (hm : m.tables = d.tables)
    (htable : d.entityTables.get? entity = some column.table)
    (hrefers : RefersIn d.tables column key) :
    ∃ t, m.Stores entity t ∧ t.HasForeignKey column key := by
  obtain ⟨t, ht, hname, hstores⟩ := h.stores hnames hm htable
  obtain ⟨t', c, ht', hc, href⟩ := hrefers
  rw [ht] at ht'
  cases ht'
  exact ⟨t, hstores, hname.symm, c, hc, href⟩

/-- What a draft holds at the end of the run resolves in the model. -/
theorem Running.resolves {as : List (Entity × Field × Association)}
    (h : Running s as d rels) (hnames : (s.toList.map Entity.name).Nodup)
    (hm : m.tables = d.tables) {e : Entity} {f : Field} {kind : Association}
    {l : Link} (hstored : Stored s d e f kind l) :
    l.Resolves m e.name f.baseType kind := by
  cases hstored with
  | belongsTo hkey htable hrefers =>
      exact ⟨rfl, h.hasForeignKey hnames hm htable hrefers,
        h.isKeyOf hnames hm hkey⟩
  | has hkind hkey _ htable hrefers =>
      refine ⟨?_, h.hasForeignKey hnames hm htable hrefers,
        h.isKeyOf hnames hm hkey⟩
      cases kind <;> simp [Association.isHas] at hkind ⊢
  | @belongsToMany key target _ _ _ n t hkey htarget _ _ htable hjoin hself
      hother =>
      have hname : t.name = n := h.sound.stored n t htable
      -- both columns are in the one join table
      have hforeign : ∀ {c : String} {k : ColumnRef},
          RefersIn d.tables ⟨n, c⟩ k → t.HasForeignKey ⟨n, c⟩ k := by
        intro c k hx
        obtain ⟨t', col, ht', hcol, href⟩ := hx
        rw [htable] at ht'
        cases ht'
        exact ⟨hname.symm, col, hcol, href⟩
      refine ⟨rfl, t, key, target, ?_, hname, Table.isJoinTable_iff.mp hjoin,
        hforeign hself, hforeign hother, h.isKeyOf hnames hm hkey,
        h.isKeyOf hnames hm htarget⟩
      show m.tables.get? n = some t
      rw [hm]
      exact htable

end Final

/-! ## §3. The relations of a model. -/

/-- A model has exactly one relation per association field, in the order of
the entities and of their fields, and its link resolves. -/
theorem relations_resolve {s : Schema} {m : Model}
    (hnames : (s.toList.map Entity.name).Nodup) (h : build s = .ok m) :
    List.Forall₂ (RelatesIn m) s.associations m.relations := by
  obtain ⟨d, rels, hrun, rfl⟩ := build_eq_ok h
  have hrunning := linkAll_running hrun
  apply hrunning.records.imp
  intro a r hr
  have hresolves := hrunning.resolves hnames
    (m := { tables := d.tables, relations := rels }) rfl hr.stored
  rw [hr.eq]
  exact ⟨rfl, rfl, rfl, rfl, hresolves⟩

/-- Books, with both sides of their associations. -/
theorem relations_resolve_bookshelf :
    ∃ s m, (Elaboration.elaborate {} [bookshelf]).result = .ok s ∧
      (s.toList.map Entity.name).Nodup ∧ build s = .ok m ∧
      List.Forall₂ (RelatesIn m) s.associations m.relations := by
  obtain ⟨s, m, hs, hm⟩ := bookshelf_model
  have hnames := (Elaboration.wellKeyed_of_elaborate hs).names_nodup
  exact ⟨s, m, hs, hnames, hm, relations_resolve hnames hm⟩

end SchemaTables.Storage
