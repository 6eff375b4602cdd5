/-
  SchemaTables.Proofs.Storage.SharedColumns
  ─────────────────────────────────────────
  **WHICH ASSOCIATIONS SHARE A FOREIGN KEY.**

  Two columns of one name that refer to one key are merged, since the two
  sides of an association ask for the same foreign key.  Which column an
  association asks for is a function of the schema (`keyPlace?`), so whoever
  shares a column has the same holder and the same target.  That leaves three
  cases:

      belongsTo and hasOne, hasMany    the two sides of an association
      belongsTo twice                  two fields of one entity
      hasOne, hasMany twice            two fields of one entity

  Of these the last two occur as well, where the names of two fields differ
  but their columns do not, such as `leadAuthor` and `lead_author`.  Foreign
  keys are paired in just the schemas without such fields
  (`foreignKeys_paired_iff`).  Every other clash of names is reported
  (`Running.conflicts_iff`).
-/
import SchemaTables.Proofs.Elaboration.Keyed
import SchemaTables.Proofs.Storage.ForeignKeys

namespace SchemaTables.Storage

open Sdl Elaboration

/-! ## §1. The column that is asked for. -/

/-- A foreign key: a column of the table of `holder` that refers to
`target`. -/
structure KeyPlace where
  holder : Entity
  column : String
  target : Entity
  deriving DecidableEq

/-- The column by name. -/
def KeyPlace.ref (p : KeyPlace) : ColumnRef := ⟨tableName p.holder, p.column⟩

/-- The foreign key that an association asks for. -/
def keyPlace? (s : Schema) (a : Entity × Field × Association) :
    Option KeyPlace :=
  match a.2.2, s.get? a.2.1.baseType, foreignName s a.1 a.2.1 with
  | .belongsTo, some target, _ =>
      some ⟨a.1, foreignKeyName a.2.1.name, target⟩
  | .hasOne, some holder, .ok name => some ⟨holder, foreignKeyName name, a.1⟩
  | .hasMany, some holder, .ok name => some ⟨holder, foreignKeyName name, a.1⟩
  | _, _, _ => none

section Places

variable {s : Schema} {e holder target : Entity} {f : Field}
  {kind : Association} {p : KeyPlace} {name : String}

theorem keyPlace?_belongsTo (h : s.get? f.baseType = some target) :
    keyPlace? s (e, f, .belongsTo)
      = some ⟨e, foreignKeyName f.name, target⟩ := by
  unfold keyPlace?
  rw [h]

theorem keyPlace?_has (hkind : kind.isHas = true)
    (h : s.get? f.baseType = some holder)
    (hname : foreignName s e f = .ok name) :
    keyPlace? s (e, f, kind) = some ⟨holder, foreignKeyName name, e⟩ := by
  unfold keyPlace?
  rw [h, hname]
  cases kind <;> first | rfl | cases hkind

/-- An association asks for a foreign key as a `belongsTo` or as a `hasOne`
or `hasMany`. -/
theorem keyPlace?_cases (h : keyPlace? s (e, f, kind) = some p) :
    (kind = .belongsTo ∧ p.holder = e ∧ p.column = foreignKeyName f.name ∧
        s.get? f.baseType = some p.target) ∨
      (kind.isHas = true ∧ p.target = e ∧ s.get? f.baseType = some p.holder ∧
        ∃ name, foreignName s e f = .ok name ∧
          p.column = foreignKeyName name) := by
  unfold keyPlace? at h
  split at h
  · next _ target hkind htarget =>
      cases h
      exact .inl ⟨hkind, rfl, rfl, htarget⟩
  · next holder name hkind hholder hname =>
      cases h
      have hk : kind = .hasOne := hkind
      exact .inr ⟨by rw [hk]; rfl, rfl, hholder, name, hname, rfl⟩
  · next holder name hkind hholder hname =>
      cases h
      have hk : kind = .hasMany := hkind
      exact .inr ⟨by rw [hk]; rfl, rfl, hholder, name, hname, rfl⟩
  · cases h

end Places

/-- No two fields of an entity that are stored alike have one column: those
that belong to one target, and those that have one. -/
structure ColumnNamesApart (s : Schema) : Prop where
  belongsTo : ∀ e ∈ s.toList, ∀ target,
    ∀ f ∈ e.associationsTo target (· = .belongsTo),
    ∀ g ∈ e.associationsTo target (· = .belongsTo),
      foreignKeyName f.name = foreignKeyName g.name → f = g
  has : ∀ e ∈ s.toList, ∀ target,
    ∀ f ∈ e.associationsTo target Association.isHas,
    ∀ g ∈ e.associationsTo target Association.isHas,
      foreignKeyName (e.name ++ "_" ++ f.name)
        = foreignKeyName (e.name ++ "_" ++ g.name) → f = g

/-- The relation `r` is the side of an association that belongs to the entity
of `r'`. -/
def Relation.BelongsToSideOf (r r' : Relation) : Prop :=
  r.kind = .belongsTo ∧ r'.kind.isHas = true ∧ r.entity = r'.target ∧
    r.target = r'.entity

/-- Foreign keys are shared by the two sides of an association only. -/
def Model.ForeignKeysPaired (m : Model) : Prop :=
  ∀ r ∈ m.relations, ∀ r' ∈ m.relations,
    (r.entity, r.field) ≠ (r'.entity, r'.field) → ∀ c,
      r.link.foreignKey? = some c → r'.link.foreignKey? = some c →
        r.BelongsToSideOf r' ∨ r'.BelongsToSideOf r

instance (r r' : Relation) : Decidable (r.BelongsToSideOf r') :=
  inferInstanceAs (Decidable (_ ∧ _ ∧ _ ∧ _))

instance (m : Model) : Decidable m.ForeignKeysPaired :=
  inferInstanceAs (Decidable (∀ r ∈ m.relations, ∀ r' ∈ m.relations,
    (r.entity, r.field) ≠ (r'.entity, r'.field) → ∀ c ∈ r.link.foreignKey?,
      r'.link.foreignKey? = some c →
        r.BelongsToSideOf r' ∨ r'.BelongsToSideOf r))

/-! ## §2. The column that is given. -/

section Given

variable {s : Schema} {as : List (Entity × Field × Association)} {d : Draft}
  {rels : List Relation} {a b : Entity × Field × Association} {l : Link}
  {p q : KeyPlace}

/-- The foreign key of a relation is the one that was asked for. -/
theorem Running.foreignKey?_eq (h : Running s as d rels)
    (hkeyed : s.WellKeyed) (ha : a ∈ s.associations)
    (hstored : Stored s d a.1 a.2.1 a.2.2 l) :
    l.foreignKey? = (keyPlace? s a).map KeyPlace.ref := by
  obtain ⟨e, f, kind⟩ := a
  obtain ⟨he, -⟩ := Schema.mem_associations.mp ha
  cases hstored with
  | belongsTo hkey htable hrefers =>
      obtain ⟨e', hget, hname⟩ := (h.entityTable_iff hkeyed).mp htable
      rw [hkeyed.get?_name he] at hget
      cases hget
      obtain ⟨target, hget, -⟩ := (h.entityTable_iff hkeyed).mp hkey.table
      rw [keyPlace?_belongsTo hget, ← hname]
      rfl
  | has hkind hkey hname htable hrefers =>
      obtain ⟨holder, hget, htname⟩ := (h.entityTable_iff hkeyed).mp htable
      rw [keyPlace?_has hkind hget hname, ← htname]
      rfl
  | belongsToMany => rfl

/-- The foreign key that was asked for refers to the key of its target. -/
theorem Running.keyPlace?_refers (h : Running s as d rels)
    (hkeyed : s.WellKeyed) (ha : a ∈ s.associations)
    (hstored : Stored s d a.1 a.2.1 a.2.2 l)
    (hp : keyPlace? s a = some p) :
    ∃ key type, RefersIn d.tables p.ref key ∧ KeyIn d.tables key type ∧
      key.table = tableName p.target := by
  have hforeign := h.foreignKey?_eq hkeyed ha hstored
  rw [hp] at hforeign
  obtain ⟨e, f, kind⟩ := a
  obtain ⟨he, -⟩ := Schema.mem_associations.mp ha
  cases hstored with
  | @belongsTo key type table hkey htable hrefers =>
      obtain ⟨target, hget, hname⟩ := (h.entityTable_iff hkeyed).mp hkey.table
      rw [keyPlace?_belongsTo hget] at hp
      cases hp
      rw [← Option.some.inj hforeign]
      exact ⟨key, type, hrefers, hkey.key, hname.symm⟩
  | @has _ key type name table hkind hkey hname htable hrefers =>
      obtain ⟨e', hget, hkname⟩ := (h.entityTable_iff hkeyed).mp hkey.table
      rw [hkeyed.get?_name he] at hget
      cases hget
      obtain ⟨holder, hget, -⟩ := (h.entityTable_iff hkeyed).mp htable
      rw [keyPlace?_has hkind hget hname] at hp
      cases hp
      rw [← Option.some.inj hforeign]
      exact ⟨key, type, hrefers, hkey.key, hkname.symm⟩
  | belongsToMany => cases hforeign

end Given

/-! ## §3. Who shares a column. -/

section Sharing

variable {s : Schema} {as : List (Entity × Field × Association)} {d : Draft}
  {rels : List Relation} {a b : Entity × Field × Association}
  {r r' : Relation} {p q : KeyPlace}

theorem keyPlace?_mem (ha : a ∈ s.associations)
    (hp : keyPlace? s a = some p) :
    p.holder ∈ s.toList ∧ p.target ∈ s.toList := by
  obtain ⟨e, f, kind⟩ := a
  obtain ⟨he, -⟩ := Schema.mem_associations.mp ha
  rcases keyPlace?_cases hp with ⟨-, hholder, -, hget⟩ | ⟨-, htarget, hget, -⟩
  · rw [hholder]
    exact ⟨he, Schema.mem_toList hget⟩
  · rw [htarget]
    exact ⟨Schema.mem_toList hget, he⟩

/-- Whoever shares a column refers to the same target from it. -/
theorem Running.place_unique (h : Running s as d rels) (hkeyed : s.WellKeyed)
    (ha : a ∈ s.associations) (hra : Records s d a r)
    (hp : keyPlace? s a = some p) (hb : b ∈ s.associations)
    (hrb : Records s d b r') (hq : keyPlace? s b = some q)
    (href : p.ref = q.ref) : p = q := by
  obtain ⟨hholder, htarget⟩ := keyPlace?_mem ha hp
  obtain ⟨hholder', htarget'⟩ := keyPlace?_mem hb hq
  obtain ⟨key, -, hkey, -, hname⟩ :=
    h.keyPlace?_refers hkeyed ha hra.stored hp
  obtain ⟨key', -, hkey', -, hname'⟩ :=
    h.keyPlace?_refers hkeyed hb hrb.stored hq
  rw [href] at hkey
  -- one column refers to one key, which is in the table of the target
  have hsame := hkey.unique hkey'
  rw [hsame] at hname
  obtain ⟨holder, column, target⟩ := p
  obtain ⟨holder', column', target'⟩ := q
  unfold KeyPlace.ref at href
  rw [ColumnRef.mk.injEq] at href
  have hh : holder = holder' := h.eq_of_tableName hkeyed hholder hholder' href.1
  have ht : target = target' :=
    h.eq_of_tableName hkeyed htarget htarget' (hname.symm.trans hname')
  have hc : column = column' := href.2
  rw [hh, ht, hc]

/-- Several fields to one target name their foreign keys after themselves. -/
theorem foreignName_of_siblings {e : Entity} {f g : Field} {name : String}
    (hname : foreignName s e f = .ok name)
    (hf : f ∈ e.associationsTo f.baseType Association.isHas)
    (hg : g ∈ e.associationsTo f.baseType Association.isHas) (hne : f ≠ g) :
    name = e.name ++ "_" ++ f.name := by
  have hmany := Entity.length_associationsTo_ne_one hf hg hne
  unfold foreignName at hname
  split at hname
  · next _ _ hone _ => exact absurd (by rw [hone]; rfl) hmany
  · next _ hone _ => exact absurd (by rw [hone]; rfl) hmany
  · cases hname
    rfl
  · cases hname

/-- Where fields of one kind have columns of their own, whoever shares a
column is the other side. -/
theorem sides_of_same_place {p : KeyPlace} (hkeyed : s.WellKeyed)
    (hapart : ColumnNamesApart s) (ha : a ∈ s.associations)
    (hb : b ∈ s.associations) (hne : a ≠ b) (hp : keyPlace? s a = some p)
    (hq : keyPlace? s b = some p) :
    (a.2.2 = .belongsTo ∧ b.2.2.isHas = true ∧ a.1.name = b.2.1.baseType ∧
        a.2.1.baseType = b.1.name) ∨
      (b.2.2 = .belongsTo ∧ a.2.2.isHas = true ∧ b.1.name = a.2.1.baseType ∧
        b.2.1.baseType = a.1.name) := by
  obtain ⟨e, f, kind⟩ := a
  obtain ⟨e', g, kind'⟩ := b
  obtain ⟨he, hf⟩ := Schema.mem_associations.mp ha
  obtain ⟨he', hg⟩ := Schema.mem_associations.mp hb
  have hfield : e = e' → f ≠ g := by
    intro heq hfg
    subst heq hfg
    obtain ⟨-, hk⟩ := Entity.mem_associations.mp hf
    obtain ⟨-, hk'⟩ := Entity.mem_associations.mp hg
    rw [hk] at hk'
    cases hk'
    exact hne rfl
  rcases keyPlace?_cases hp with
      ⟨hk, hholder, hcolumn, hget⟩ | ⟨hk, htarget, hget, n, hn, hcolumn⟩ <;>
    rcases keyPlace?_cases hq with
      ⟨hk', hholder', hcolumn', hget'⟩ |
        ⟨hk', htarget', hget', n', hn', hcolumn'⟩
  · -- two fields that belong to one target
    exfalso
    have heq : e = e' := hholder.symm.trans hholder'
    subst heq hk hk'
    have hbase : g.baseType = f.baseType := by
      rw [← hkeyed.entity _ _ hget, ← hkeyed.entity _ _ hget']
    have hf' : f ∈ e.associationsTo f.baseType (· = .belongsTo) :=
      Entity.mem_associationsTo.mpr ⟨_, hf, rfl, by simp⟩
    have hg' : g ∈ e.associationsTo f.baseType (· = .belongsTo) :=
      Entity.mem_associationsTo.mpr ⟨_, hg, hbase, by simp⟩
    exact hfield rfl
      (hapart.belongsTo e he _ f hf' g hg' (hcolumn.symm.trans hcolumn'))
  · left
    refine ⟨hk, hk', ?_, ?_⟩
    · show e.name = g.baseType
      rw [← hholder]
      exact hkeyed.entity _ _ hget'
    · show f.baseType = e'.name
      rw [← htarget']
      exact (hkeyed.entity _ _ hget).symm
  · right
    refine ⟨hk', hk, ?_, ?_⟩
    · show e'.name = f.baseType
      rw [← hholder']
      exact hkeyed.entity _ _ hget
    · show g.baseType = e.name
      rw [← htarget]
      exact (hkeyed.entity _ _ hget').symm
  · -- two fields that have one target
    exfalso
    have heq : e = e' := htarget.symm.trans htarget'
    subst heq
    have hbase : g.baseType = f.baseType := by
      rw [← hkeyed.entity _ _ hget, ← hkeyed.entity _ _ hget']
    have hf' : f ∈ e.associationsTo f.baseType Association.isHas :=
      Entity.mem_associationsTo.mpr ⟨_, hf, rfl, hk⟩
    have hg' : g ∈ e.associationsTo f.baseType Association.isHas :=
      Entity.mem_associationsTo.mpr ⟨_, hg, hbase, hk'⟩
    have hname := foreignName_of_siblings hn hf' hg' (hfield rfl)
    rw [← hbase] at hf' hg'
    have hname' := foreignName_of_siblings hn' hg' hf' (hfield rfl).symm
    rw [hname] at hcolumn
    rw [hname', hcolumn] at hcolumn'
    exact hfield rfl (hapart.has e he _ f hf' g hg' hcolumn')

end Sharing

/-! ## §4. The two sides. -/

section Paired

variable {s : Schema} {m : Model}

/-- Where fields of one kind have columns of their own, foreign keys are
paired. -/
theorem foreignKeysPaired_of_apart (hkeyed : s.WellKeyed)
    (h : build s = .ok m) (hapart : ColumnNamesApart s) :
    m.ForeignKeysPaired := by
  obtain ⟨d, rels, hrun, rfl⟩ := build_eq_ok h
  have hrunning := linkAll_running hrun
  intro r hr r' hr' hne c hc hc'
  obtain ⟨a, ha, hra⟩ := exists_left_of_forall₂ hrunning.records r hr
  obtain ⟨b, hb, hrb⟩ := exists_left_of_forall₂ hrunning.records r' hr'
  rw [hrunning.foreignKey?_eq hkeyed ha hra.stored,
    Option.map_eq_some_iff] at hc
  rw [hrunning.foreignKey?_eq hkeyed hb hrb.stored,
    Option.map_eq_some_iff] at hc'
  obtain ⟨p, hp, hpc⟩ := hc
  obtain ⟨q, hq, hqc⟩ := hc'
  have hpq := hrunning.place_unique hkeyed ha hra hp hb hrb hq
    (hpc.trans hqc.symm)
  subst hpq
  have hab : a ≠ b := by
    intro heq
    subst heq
    apply hne
    rw [hra.eq, hrb.eq]
    rfl
  rw [hra.eq, hrb.eq]
  exact sides_of_same_place hkeyed hapart ha hb hab hp hq

/-- An association other than a `belongsToMany` is stored by the foreign key
that it asks for. -/
theorem Running.exists_place {as : List (Entity × Field × Association)}
    {d : Draft} {rels : List Relation} (h : Running s as d rels)
    (hkeyed : s.WellKeyed) {e : Entity} {f : Field} {kind : Association}
    {l : Link} (hstored : Stored s d e f kind l)
    (hkind : kind ≠ .belongsToMany) :
    ∃ p, keyPlace? s (e, f, kind) = some p := by
  cases hstored with
  | belongsTo hkey _ _ =>
      obtain ⟨target, hget, -⟩ := (h.entityTable_iff hkeyed).mp hkey.table
      exact ⟨_, keyPlace?_belongsTo hget⟩
  | has hhas _ hname htable _ =>
      obtain ⟨holder, hget, -⟩ := (h.entityTable_iff hkeyed).mp htable
      exact ⟨_, keyPlace?_has hhas hget hname⟩
  | belongsToMany => exact absurd rfl hkind

/-- In a model with paired foreign keys, two fields with one column are of
different kinds. -/
theorem kinds_of_same_place (hkeyed : s.WellKeyed) (h : build s = .ok m)
    (hpaired : m.ForeignKeysPaired)
    {a b : Entity × Field × Association} (ha : a ∈ s.associations)
    (hb : b ∈ s.associations) (hne : a ≠ b) {p q : KeyPlace}
    (hp : keyPlace? s a = some p) (hq : keyPlace? s b = some q)
    (href : p.ref = q.ref) :
    (a.2.2 = .belongsTo ∧ b.2.2.isHas = true) ∨
      (b.2.2 = .belongsTo ∧ a.2.2.isHas = true) := by
  obtain ⟨d, rels, hrun, rfl⟩ := build_eq_ok h
  have hrunning := linkAll_running hrun
  obtain ⟨r, hr, hra⟩ := exists_right_of_forall₂ hrunning.records a ha
  obtain ⟨r', hr', hrb⟩ := exists_right_of_forall₂ hrunning.records b hb
  have hc := hrunning.foreignKey?_eq hkeyed ha hra.stored
  have hc' := hrunning.foreignKey?_eq hkeyed hb hrb.stored
  rw [hp] at hc
  rw [hq] at hc'
  have hnames : (r.entity, r.field) ≠ (r'.entity, r'.field) := by
    rw [hra.eq, hrb.eq]
    intro heq
    rw [Prod.mk.injEq] at heq
    exact hne (hkeyed.eq_of_names ha hb heq.1 heq.2)
  have hsides :=
    hpaired r hr r' hr' hnames p.ref hc (by rw [href]; exact hc')
  rw [hra.eq, hrb.eq] at hsides
  exact hsides.imp (fun hside => ⟨hside.1, hside.2.1⟩)
    (fun hside => ⟨hside.1, hside.2.1⟩)

/-- Two fields of one entity that belong to some target ask for one column if
their names give one. -/
theorem ref_eq_of_belongsTo {e : Entity} {f g : Field} {p q : KeyPlace}
    (hp : keyPlace? s (e, f, .belongsTo) = some p)
    (hq : keyPlace? s (e, g, .belongsTo) = some q)
    (hcolumn : foreignKeyName f.name = foreignKeyName g.name) :
    p.ref = q.ref := by
  have hplace : ∀ {h : Field} {r : KeyPlace},
      keyPlace? s (e, h, .belongsTo) = some r →
        r.ref = ⟨tableName e, foreignKeyName h.name⟩ := by
    intro h r hr
    rcases keyPlace?_cases hr with ⟨-, hholder, hc, -⟩ | ⟨hk, -⟩
    · unfold KeyPlace.ref
      rw [hholder, hc]
    · cases hk
  rw [hplace hp, hplace hq, hcolumn]

/-- Two fields of one entity that have one target ask for one column if their
names, after that of the entity, give one. -/
theorem ref_eq_of_has {e : Entity} {f g : Field} {kind kind' : Association}
    {target : String} {p q : KeyPlace}
    (hf : f ∈ e.associationsTo target Association.isHas)
    (hg : g ∈ e.associationsTo target Association.isHas) (hne : f ≠ g)
    (hk : kind.isHas = true) (hk' : kind'.isHas = true)
    (hp : keyPlace? s (e, f, kind) = some p)
    (hq : keyPlace? s (e, g, kind') = some q)
    (hcolumn : foreignKeyName (e.name ++ "_" ++ f.name)
      = foreignKeyName (e.name ++ "_" ++ g.name)) :
    p.ref = q.ref := by
  obtain ⟨-, -, hft, -⟩ := Entity.mem_associationsTo.mp hf
  obtain ⟨-, -, hgt, -⟩ := Entity.mem_associationsTo.mp hg
  rcases keyPlace?_cases hp with ⟨rfl, -⟩ | ⟨-, -, hget, n, hn, hc⟩
  · cases hk
  rcases keyPlace?_cases hq with ⟨rfl, -⟩ | ⟨-, -, hget', n', hn', hc'⟩
  · cases hk'
  rw [hft] at hget
  rw [hgt, hget] at hget'
  rw [foreignName_of_siblings hn (hft ▸ hf) (hft ▸ hg) hne] at hc
  rw [foreignName_of_siblings hn' (hgt ▸ hg) (hgt ▸ hf) hne.symm] at hc'
  unfold KeyPlace.ref
  rw [Option.some.inj hget', hc, hc', hcolumn]

/-- In a model with paired foreign keys, fields of one kind have columns of
their own. -/
theorem apart_of_foreignKeysPaired (hkeyed : s.WellKeyed)
    (h : build s = .ok m) (hpaired : m.ForeignKeysPaired) :
    ColumnNamesApart s := by
  obtain ⟨d, rels, hrun, hm⟩ := build_eq_ok h
  have hrunning := linkAll_running hrun
  -- what two fields of one entity to one target ask for
  have hplace : ∀ {e : Entity} {f : Field} {kind : Association},
      e ∈ s.toList → (f, kind) ∈ e.associations → kind ≠ .belongsToMany →
        (e, f, kind) ∈ s.associations ∧
          ∃ p, keyPlace? s (e, f, kind) = some p := by
    intro e f kind he hf hkind
    have ha : (e, f, kind) ∈ s.associations :=
      Schema.mem_associations.mpr ⟨he, hf⟩
    obtain ⟨r, -, hra⟩ := exists_right_of_forall₂ hrunning.records _ ha
    exact ⟨ha, hrunning.exists_place hkeyed hra.stored hkind⟩
  refine ⟨?_, ?_⟩
  · intro e he target f hf g hg hcolumn
    obtain ⟨kind, hfe, -, hk⟩ := Entity.mem_associationsTo.mp hf
    obtain ⟨kind', hge, -, hk'⟩ := Entity.mem_associationsTo.mp hg
    rw [decide_eq_true_eq] at hk hk'
    subst hk hk'
    obtain ⟨ha, p, hp⟩ := hplace he hfe (by simp)
    obtain ⟨hb, q, hq⟩ := hplace he hge (by simp)
    by_contra hne
    have hab : (e, f, Association.belongsTo) ≠ (e, g, .belongsTo) := by
      intro heq
      cases heq
      exact hne rfl
    have href := ref_eq_of_belongsTo hp hq hcolumn
    rcases kinds_of_same_place hkeyed h hpaired ha hb hab hp hq href with
      ⟨-, hk⟩ | ⟨-, hk⟩ <;> cases hk
  · intro e he target f hf g hg hcolumn
    obtain ⟨kind, hfe, -, hk⟩ := Entity.mem_associationsTo.mp hf
    obtain ⟨kind', hge, -, hk'⟩ := Entity.mem_associationsTo.mp hg
    obtain ⟨ha, p, hp⟩ := hplace he hfe (by intro heq; subst heq; cases hk)
    obtain ⟨hb, q, hq⟩ := hplace he hge (by intro heq; subst heq; cases hk')
    by_contra hne
    have hab : (e, f, kind) ≠ (e, g, kind') := by
      intro heq
      cases heq
      exact hne rfl
    have href := ref_eq_of_has hf hg hne hk hk' hp hq hcolumn
    rcases kinds_of_same_place hkeyed h hpaired ha hb hab hp hq href with
      ⟨hb', -⟩ | ⟨hb', -⟩
    · have : kind = .belongsTo := hb'
      rw [this] at hk
      cases hk
    · have : kind' = .belongsTo := hb'
      rw [this] at hk'
      cases hk'

end Paired

/-! ## §5. Columns that are refused. -/

/-- The name of the column is taken by one that is not the same foreign key:
by the column of a field without an association, or by a foreign key that
refers to another target. -/
def KeyPlaceTaken (s : Schema) (done : List (Entity × Field × Association))
    (p : KeyPlace) : Prop :=
  (∃ f ∈ p.holder.primitiveFields, columnName f.name = p.column) ∨
    ∃ b ∈ done, ∃ q, keyPlace? s b = some q ∧ q.holder = p.holder ∧
      q.column = p.column ∧ q.target ≠ p.target

section Refused

variable {s : Schema} {done : List (Entity × Field × Association)}
  {d : Draft} {rels : List Relation} {a : Entity × Field × Association}
  {p : KeyPlace}

theorem foreignKeyName_ne (name : String) :
    foreignKeyName name ≠ keyField := by
  intro h
  have hlength := congrArg String.length h
  unfold foreignKeyName keyField at hlength
  rw [String.length_append] at hlength
  have hsuffix : "_id".length = 3 := rfl
  have hkey : "id".length = 2 := rfl
  omega

theorem keyPlace?_column_ne (hp : keyPlace? s a = some p) :
    p.column ≠ keyField := by
  obtain ⟨e, f, kind⟩ := a
  rcases keyPlace?_cases hp with
    ⟨-, -, hcolumn, -⟩ | ⟨-, -, -, name, -, hcolumn⟩
  · rw [hcolumn]
    exact foreignKeyName_ne _
  · rw [hcolumn]
    exact foreignKeyName_ne _

/-- In terms of the schema: which column stands in the way of a foreign key
to `key`. -/
theorem Running.taken_iff (h : Running s done d rels)
    (haccounted : Accounted d rels) (hkeyed : s.WellKeyed)
    (hsub : ∀ b ∈ done, b ∈ s.associations) (ha : a ∈ s.associations)
    (hp : keyPlace? s a = some p) {key : ColumnRef} {type : ColumnType}
    (hkey : KeyIn d.tables key type) (hname : key.table = tableName p.target)
    {t : Table} (ht : d.tables.get? (tableName p.holder) = some t) :
    (∃ c, t.column? p.column = some c ∧ c.references ≠ some key) ↔
      KeyPlaceTaken s done p := by
  obtain ⟨hholder, htarget⟩ := keyPlace?_mem ha hp
  have hplain := h.plainColumn_iff hkeyed hholder ht (keyPlace?_column_ne hp)
  have htname : t.name = tableName p.holder := h.sound.stored _ t ht
  constructor
  · intro hx
    obtain ⟨c, hc, hne⟩ := hx
    cases href : c.references with
    | none => exact .inl (hplain.mp ⟨c, hc, href⟩)
    | some other =>
        -- a foreign key belongs to a relation, so it was asked for
        right
        obtain ⟨hmem, hcname⟩ := Table.of_column? hc
        have hentity : t.isJoinTable = false := by
          obtain ⟨t₀, t', hlaidOut, ht', hgrows⟩ := h.laidOut hkeyed hholder
          rw [ht] at ht'
          cases ht'
          rw [hgrows.isJoinTable]
          exact hlaidOut.isJoinTable
        obtain ⟨r, hr, hlink⟩ := haccounted.column _ t ht hentity c hmem
          (by rw [href]; rfl)
        obtain ⟨b, hb, hrb⟩ := exists_left_of_forall₂ h.records r hr
        have hb' := hsub b hb
        rw [h.foreignKey?_eq hkeyed hb' hrb.stored,
          Option.map_eq_some_iff] at hlink
        obtain ⟨q, hq, hqref⟩ := hlink
        rw [Table.ref, hcname, htname, KeyPlace.ref,
          ColumnRef.mk.injEq] at hqref
        obtain ⟨key', type', hrefers, hkey', hname'⟩ :=
          h.keyPlace?_refers hkeyed hb' hrb.stored hq
        refine ⟨b, hb, q, hq, ?_, hqref.2, ?_⟩
        · exact h.eq_of_tableName hkeyed (keyPlace?_mem hb' hq).1 hholder
            hqref.1
        · -- the same target would mean the same reference
          intro heq
          have hsame : key' = key :=
            hkey'.unique hkey (by rw [hname', heq, hname])
          obtain ⟨t', c', ht', hc', href'⟩ := hrefers
          rw [KeyPlace.ref] at ht' hc'
          dsimp only at ht' hc'
          rw [hqref.1, ht] at ht'
          cases ht'
          rw [hqref.2, hc] at hc'
          cases hc'
          rw [href', hsame] at hne
          exact hne rfl
  · intro hx
    rcases hx with hfield | ⟨b, hb, q, hq, hh, hc, hne⟩
    · obtain ⟨c, hc, hnone⟩ := hplain.mpr hfield
      exact ⟨c, hc, by rw [hnone]; simp⟩
    · obtain ⟨r, -, hrb⟩ := exists_right_of_forall₂ h.records b hb
      have hb' := hsub b hb
      obtain ⟨key', -, ⟨t', c, ht', hfind, href⟩, -, hname'⟩ :=
        h.keyPlace?_refers hkeyed hb' hrb.stored hq
      rw [KeyPlace.ref] at ht' hfind
      dsimp only at ht' hfind
      rw [hh, ht] at ht'
      cases ht'
      rw [hc] at hfind
      refine ⟨c, hfind, ?_⟩
      rw [href]
      intro heq
      rw [Option.some.inj heq, hname] at hname'
      exact hne
        (h.eq_of_tableName hkeyed (keyPlace?_mem hb' hq).2 htarget hname'.symm)

/-- Where a step ends with adding a column, it fails as that does. -/
theorem addColumn_then_eq_error {t : Table} {new : Column} {key : ColumnRef}
    {x : StorageError} {next : Table → Draft × Link}
    (href : new.references = some key) :
    (do let t' ← t.addColumn new; return next t') = .error x ↔
      x = .columnConflict t.name new.name ∧
        ∃ old, t.column? new.name = some old ∧ old.references ≠ some key := by
  rw [bind_eq_error, addColumn_eq_error href]
  constructor
  · intro hx
    rcases hx with hrefused | ⟨t', -, hdone⟩
    · exact hrefused
    · cases hdone
  · intro hrefused
    exact .inl hrefused

/-- A name is reported as a conflict if and only if it is taken. -/
theorem Running.conflicts_iff (h : Running s done d rels)
    (haccounted : Accounted d rels) (hkeyed : s.WellKeyed)
    (hsub : ∀ b ∈ done, b ∈ s.associations) (ha : a ∈ s.associations)
    (hp : keyPlace? s a = some p) :
    link s d a.1 a.2.1 a.2.2
        = .error (.columnConflict (tableName p.holder) p.column) ↔
      KeyPlaceTaken s done p := by
  obtain ⟨e, f, kind⟩ := a
  obtain ⟨he, -⟩ := Schema.mem_associations.mp ha
  have hself := hkeyed.get?_name he
  have htaken : ∀ {key : ColumnRef} {type : ColumnType} {t : Table},
      KeyIn d.tables key type → key.table = tableName p.target →
      d.tables.get? (tableName p.holder) = some t →
      ((∃ c, t.column? p.column = some c ∧ c.references ≠ some key) ↔
        KeyPlaceTaken s done p) :=
    fun hkey hname ht =>
      h.taken_iff haccounted hkeyed hsub ha hp hkey hname ht
  rcases keyPlace?_cases hp with
    ⟨hk, hholder, hcolumn, hget⟩ | ⟨hk, htarget, hget, name, hname, hcolumn⟩
  · obtain ⟨key, type, hkey, hin, hktable⟩ := h.keyFound hkeyed hget e f
    obtain ⟨t, ht, htname, htget⟩ := h.tableFound hkeyed hself e f
    rw [← hholder] at htname htget
    rw [← htaken hin hktable htget, hcolumn]
    have hlink : link s d e f kind = linkBelongsTo d e f := by
      rw [hk]
      rfl
    show link s d e f kind = _ ↔ _
    rw [hlink, linkBelongsTo_eq hkey ht, addColumn_then_eq_error rfl, htname]
    exact and_iff_right rfl
  · obtain ⟨key, type, hkey, hin, hktable⟩ := h.keyFound hkeyed hself e f
    obtain ⟨t, ht, htname, htget⟩ := h.tableFound hkeyed hget e f
    rw [← htarget] at hktable
    rw [← htaken hin hktable htget, hcolumn]
    have hlink : link s d e f kind = linkHas s d e f := by
      cases kind <;> first | rfl | cases hk
    show link s d e f kind = _ ↔ _
    rw [hlink, linkHas_eq hkey hname ht, addColumn_then_eq_error rfl, htname]
    exact and_iff_right rfl

end Refused

/-- For a schema from documents: foreign keys are paired if and only if
fields of one kind have columns of their own.  A name is reported as a
conflict, and ends the run, if and only if it is that of another column. -/
theorem foreignKeys_paired_iff {options : Options} {docs : List Document}
    {s : Schema} (hs : (elaborate options docs).result = .ok s) :
    (∀ m, build s = .ok m → (m.ForeignKeysPaired ↔ ColumnNamesApart s)) ∧
    ∀ done a rest d rels p, s.associations = done ++ a :: rest →
      linkAll s done = .ok (d, rels) → keyPlace? s a = some p →
        (link s d a.1 a.2.1 a.2.2
            = .error (.columnConflict (tableName p.holder) p.column) ↔
          KeyPlaceTaken s done p) ∧
        (KeyPlaceTaken s done p →
          build s
            = .error (.columnConflict (tableName p.holder) p.column)) := by
  have hkeyed := wellKeyed_of_elaborate hs
  refine ⟨?_, ?_⟩
  · intro m hm
    exact ⟨apart_of_foreignKeysPaired hkeyed hm,
      foreignKeysPaired_of_apart hkeyed hm⟩
  · intro done a rest d rels p has hrun hp
    obtain ⟨hsub, ha⟩ := mem_of_split has
    have hreports := (linkAll_running hrun).conflicts_iff
      (linkAll_accounted hrun) hkeyed hsub ha hp
    exact ⟨hreports, fun htaken =>
      build_eq_error has hrun (hreports.mpr htaken)⟩

/-- Authors and books have one foreign key, which is asked for from both
sides, and mentors have another. -/
theorem foreignKeys_paired_bookshelf :
    ∃ s m, (elaborate {} [bookshelf]).result = .ok s ∧ build s = .ok m ∧
      (m.relations.filterMap fun r => r.link.foreignKey?.map fun c =>
        (r.entity, c)) =
        [("Author", ⟨"authors", "mentor_id"⟩),
          ("Author", ⟨"books", "author_id"⟩),
          ("Book", ⟨"books", "author_id"⟩)] ∧
      m.ForeignKeysPaired ∧ ColumnNamesApart s := by
  have hrun : (modelOf [bookshelf]).map (fun sm =>
      (sm.2.relations.filterMap fun r => r.link.foreignKey?.map fun c =>
        (r.entity, c), decide sm.2.ForeignKeysPaired)) =
      some ([("Author", ⟨"authors", "mentor_id"⟩),
        ("Author", ⟨"books", "author_id"⟩),
        ("Book", ⟨"books", "author_id"⟩)], true) := by
    decide +kernel
  obtain ⟨⟨s, m⟩, hmodel, hboth⟩ := Option.map_eq_some_iff.mp hrun
  obtain ⟨hs, hm⟩ := modelOf_eq_some.mp hmodel
  rw [Prod.mk.injEq, decide_eq_true_eq] at hboth
  obtain ⟨hcolumns, hpaired⟩ := hboth
  exact ⟨s, m, hs, hm, hcolumns, hpaired,
    ((foreignKeys_paired_iff hs).1 m hm).mp hpaired⟩

/-! ## §6. Two fields with one column. -/

/-- A book with a leading author, and another one: both fields have the
column `lead_author_id`. -/
def twiceLed : Document where
  definitions :=
    [ objectType "Book" "Books"
        [ associationTo "Author" "leadAuthor" .belongsTo,
          associationTo "Author" "lead_author" .belongsTo ],
      objectType "Author" "Authors" [plainField "id" "ID"] ]

/-- Two fields that belong to one entity may end up in one column. -/
theorem foreignKeys_not_paired :
    ∃ s m, (elaborate {} [twiceLed]).result = .ok s ∧ build s = .ok m ∧
      ¬ m.ForeignKeysPaired := by
  have hrun : (modelOf [twiceLed]).map (fun sm =>
      sm.2.relations.map fun r => (r.kind, r.field, r.link.foreignKey?)) =
      some [(.belongsTo, "leadAuthor", some ⟨"books", "lead_author_id"⟩),
        (.belongsTo, "lead_author", some ⟨"books", "lead_author_id"⟩)] := by
    decide +kernel
  obtain ⟨⟨s, m⟩, hmodel, hrelations⟩ := Option.map_eq_some_iff.mp hrun
  obtain ⟨hs, hm⟩ := modelOf_eq_some.mp hmodel
  obtain ⟨r, hr, hrx⟩ := exists_of_map_eq hrelations
    (b := (.belongsTo, "leadAuthor", some ⟨"books", "lead_author_id"⟩))
    (by simp)
  obtain ⟨r', hr', hrx'⟩ := exists_of_map_eq hrelations
    (b := (.belongsTo, "lead_author", some ⟨"books", "lead_author_id"⟩))
    (by simp)
  simp only [Prod.mk.injEq] at hrx hrx'
  obtain ⟨hkind, hfield, hcolumn⟩ := hrx
  obtain ⟨hkind', hfield', hcolumn'⟩ := hrx'
  refine ⟨s, m, hs, hm, ?_⟩
  intro hpaired
  have hne : (r.entity, r.field) ≠ (r'.entity, r'.field) := by
    intro heq
    rw [Prod.mk.injEq, hfield, hfield'] at heq
    exact absurd heq.2 (by decide)
  have hsides := hpaired r hr r' hr' hne _ hcolumn hcolumn'
  rcases hsides with ⟨-, hhas, -⟩ | ⟨-, hhas, -⟩
  · rw [hkind'] at hhas
    cases hhas
  · rw [hkind] at hhas
    cases hhas

end SchemaTables.Storage
