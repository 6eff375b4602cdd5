/-
  SchemaTables.Proofs.Storage.Linking
  ───────────────────────────────────
  **WHAT STORING AN ASSOCIATION DOES.**

  `Linked` lists the three things that storing one association can do to a
  draft, with all that was looked up for them; every other fact about the
  step is read off it.  A step keeps the draft sound and lets it grow
  (`Linked.sound`, `Linked.grows`).

  `Stored` says how a draft holds an association: by which columns, and to
  which keys these refer.  A step stores its association (`Linked.stored`),
  and what is stored stays stored while the draft grows (`Stored.mono`).
-/
import SchemaTables.Proofs.Storage.Layout
import SchemaTables.Storage.Linking

namespace SchemaTables.Storage

/-! ## §1. The three steps. -/

/-- The name of the join table of the field `f` between the tables `own` and
`other`. -/
def joinNameOf (shared : Bool) (own other : String) (f : Field) : String :=
  if shared then joinTableName own other
  else own ++ "_" ++ columnName f.name

/-- What the second column of the join table of `f` is named after. -/
def farName (e : Entity) (f : Field) : String :=
  if f.baseType = e.name then f.name else f.baseType

/-- Storing the field `f` of `e` makes `d'` of the draft `d`. -/
inductive Linked (s : Schema) (d : Draft) (e : Entity) (f : Field) :
    Association → Draft → Link → Prop where
  /-- A column of the entity refers to the target. -/
  | belongsTo {key : ColumnRef} {type : ColumnType} {t t' : Table}
      (hkey : d.primaryKey? f.baseType = some (key, type))
      (htable : d.entityTable? e.name = some t)
      (hadd : t.addColumn (foreignKey f.name type f.nullable key) = .ok t') :
      Linked s d e f .belongsTo (d.replace t')
        (.manyToOne (t'.ref (foreignKeyName f.name)) key)
  /-- A column of the target refers to the entity. -/
  | has {kind : Association} {key : ColumnRef} {type : ColumnType}
      {name : String} {t t' : Table} (hkind : kind.isHas = true)
      (hkey : d.primaryKey? e.name = some (key, type))
      (hname : foreignName s e f = .ok name)
      (htable : d.entityTable? f.baseType = some t)
      (hadd : t.addColumn (foreignKey name type true key) = .ok t') :
      Linked s d e f kind (d.replace t')
        (.oneToMany key (t'.ref (foreignKeyName name)))
  /-- Two columns of a join table refer to both. -/
  | belongsToMany {key target : ColumnRef} {type targetType : ColumnType}
      {shared : Bool} {t t₁ t₂ : Table}
      (hkey : d.primaryKey? e.name = some (key, type))
      (htarget : d.primaryKey? f.baseType = some (target, targetType))
      (hshared : sharesJoinTable s e f = .ok shared)
      (htable : joinTable d (joinNameOf shared key.table target.table f)
        shared = .ok t)
      (hone : t.addColumn (joinColumn e.name type key) = .ok t₁)
      (hother : t₁.addColumn (joinColumn (farName e f) targetType target)
        = .ok t₂) :
      Linked s d e f .belongsToMany (d.replace t₂)
        (.manyToMany (joinNameOf shared key.table target.table f)
          (t₂.ref (foreignKeyName e.name))
          (t₂.ref (foreignKeyName (farName e f))))

theorem requireKey_eq_ok {d : Draft} {e : Entity} {f : Field}
    {entity : String} {key : ColumnRef × ColumnType} :
    requireKey d e f entity = .ok key ↔ d.primaryKey? entity = some key := by
  unfold requireKey
  cases d.primaryKey? entity <;> simp

theorem requireTable_eq_ok {d : Draft} {e : Entity} {f : Field}
    {entity : String} {t : Table} :
    requireTable d e f entity = .ok t ↔ d.entityTable? entity = some t := by
  unfold requireTable
  cases d.entityTable? entity <;> simp

section Equations

variable {s : Schema} {d : Draft} {e : Entity} {f : Field}
  {key target : ColumnRef} {type targetType : ColumnType}

/-- Storing a `belongsTo`, once everything is looked up. -/
theorem linkBelongsTo_eq {t : Table}
    (hkey : requireKey d e f f.baseType = .ok (key, type))
    (htable : requireTable d e f e.name = .ok t) :
    linkBelongsTo d e f = do
      let t' ← t.addColumn (foreignKey f.name type f.nullable key)
      return (d.replace t',
        .manyToOne (t'.ref (foreignKeyName f.name)) key) := by
  unfold linkBelongsTo
  rw [bind_of_ok hkey]
  dsimp only
  rw [bind_of_ok htable]
  rfl

/-- Storing a `hasOne` or `hasMany`, once everything is looked up. -/
theorem linkHas_eq {t : Table} {name : String}
    (hkey : requireKey d e f e.name = .ok (key, type))
    (hname : foreignName s e f = .ok name)
    (htable : requireTable d e f f.baseType = .ok t) :
    linkHas s d e f = do
      let t' ← t.addColumn (foreignKey name type true key)
      return (d.replace t',
        .oneToMany key (t'.ref (foreignKeyName name))) := by
  unfold linkHas
  rw [bind_of_ok hkey]
  dsimp only
  rw [bind_of_ok hname, bind_of_ok htable]
  rfl

/-- Storing a `belongsToMany`, once everything is looked up. -/
theorem linkBelongsToMany_eq {shared : Bool}
    (hkey : requireKey d e f e.name = .ok (key, type))
    (htarget : requireKey d e f f.baseType = .ok (target, targetType))
    (hshared : sharesJoinTable s e f = .ok shared) :
    linkBelongsToMany s d e f = do
      let t ← joinTable d (joinNameOf shared key.table target.table f) shared
      let t₁ ← t.addColumn (joinColumn e.name type key)
      let t₂ ← t₁.addColumn (joinColumn (farName e f) targetType target)
      return (d.replace t₂,
        .manyToMany (joinNameOf shared key.table target.table f)
          (t₂.ref (foreignKeyName e.name))
          (t₂.ref (foreignKeyName (farName e f)))) := by
  unfold linkBelongsToMany
  rw [bind_of_ok hkey]
  dsimp only
  rw [bind_of_ok htarget]
  dsimp only
  rw [bind_of_ok hshared]
  rfl

end Equations

section Inversion

variable {s : Schema} {d d' : Draft} {e : Entity} {f : Field} {l : Link}

theorem linked_of_linkBelongsTo (h : linkBelongsTo d e f = .ok (d', l)) :
    Linked s d e f .belongsTo d' l := by
  unfold linkBelongsTo at h
  rw [bind_eq_ok] at h
  obtain ⟨⟨key, type⟩, hkey, h⟩ := h
  rw [bind_eq_ok] at h
  obtain ⟨t, htable, h⟩ := h
  rw [bind_eq_ok] at h
  obtain ⟨t', hadd, h⟩ := h
  cases h
  exact .belongsTo (requireKey_eq_ok.mp hkey) (requireTable_eq_ok.mp htable)
    hadd

theorem linked_of_linkHas {kind : Association} (hkind : kind.isHas = true)
    (h : linkHas s d e f = .ok (d', l)) : Linked s d e f kind d' l := by
  unfold linkHas at h
  rw [bind_eq_ok] at h
  obtain ⟨⟨key, type⟩, hkey, h⟩ := h
  rw [bind_eq_ok] at h
  obtain ⟨name, hname, h⟩ := h
  rw [bind_eq_ok] at h
  obtain ⟨t, htable, h⟩ := h
  rw [bind_eq_ok] at h
  obtain ⟨t', hadd, h⟩ := h
  cases h
  exact .has hkind (requireKey_eq_ok.mp hkey) hname
    (requireTable_eq_ok.mp htable) hadd

theorem linked_of_linkBelongsToMany
    (h : linkBelongsToMany s d e f = .ok (d', l)) :
    Linked s d e f .belongsToMany d' l := by
  unfold linkBelongsToMany at h
  rw [bind_eq_ok] at h
  obtain ⟨⟨key, type⟩, hkey, h⟩ := h
  rw [bind_eq_ok] at h
  obtain ⟨⟨target, targetType⟩, htarget, h⟩ := h
  rw [bind_eq_ok] at h
  obtain ⟨shared, hshared, h⟩ := h
  rw [bind_eq_ok] at h
  obtain ⟨t, htable, h⟩ := h
  rw [bind_eq_ok] at h
  obtain ⟨t₁, hone, h⟩ := h
  rw [bind_eq_ok] at h
  obtain ⟨t₂, hother, h⟩ := h
  cases h
  exact .belongsToMany (requireKey_eq_ok.mp hkey)
    (requireKey_eq_ok.mp htarget) hshared htable hone hother

/-- Storing an association does one of the three. -/
theorem linked_of_link {kind : Association}
    (h : link s d e f kind = .ok (d', l)) : Linked s d e f kind d' l := by
  cases kind with
  | belongsTo => exact linked_of_linkBelongsTo h
  | hasOne => exact linked_of_linkHas rfl h
  | hasMany => exact linked_of_linkHas rfl h
  | belongsToMany => exact linked_of_linkBelongsToMany h

end Inversion

/-! ## §2. A step keeps the draft sound. -/

section Invariant

variable {s : Schema} {d d' : Draft} {e : Entity} {f : Field}
  {kind : Association} {l : Link} {t t' : Table} {entity : String}
  {key : ColumnRef} {type : ColumnType}

theorem foreignKeyIn_foreignKey (hkey : d.IsKeyOf entity key type)
    (ht : t.isJoinTable = false) (name : String) (nullable : Bool) :
    ForeignKeyIn d.tables t (foreignKey name type nullable key) :=
  ⟨⟨key, rfl, hkey.key⟩, ht.symm, rfl, fun h => by rw [ht] at h; cases h⟩

theorem foreignKeyIn_joinColumn (hkey : d.IsKeyOf entity key type)
    (ht : t.isJoinTable = true) (name : String) :
    ForeignKeyIn d.tables t (joinColumn name type key) :=
  ⟨⟨key, rfl, hkey.key⟩, ht.symm, rfl, fun _ => rfl⟩

/-- A table goes back to where it was taken from. -/
theorem Draft.Sound.putBack (h : d.Sound)
    (hplace : ∀ u, d.tables.get? t.name = some u → u = t)
    (hnew : t.isJoinTable = false → d.tables.get? t.name = some t)
    (hsound : TableSound d.tables t') (hgrows : t.Grows t') :
    (d.replace t').Sound ∧ d.Grows (d.replace t') := by
  -- what stands in its place is the table before it was changed
  have hold : ∀ u, d.tables.get? t'.name = some u → u.Grows t' := by
    intro u hu
    rw [hgrows.name] at hu
    rw [hplace u hu]
    exact hgrows
  refine ⟨h.replace hsound hold, Draft.grows_replace hold ?_⟩
  intro hentity
  rw [hgrows.isJoinTable] at hentity
  exact ⟨t, by rw [hgrows.name]; exact hnew hentity⟩

/-- Storing a foreign key in the table of an entity. -/
theorem Draft.Sound.addForeignKey {holder name : String} {nullable : Bool}
    (h : d.Sound) (hkey : d.IsKeyOf entity key type)
    (ht : d.entityTable? holder = some t)
    (hadd : t.addColumn (foreignKey name type nullable key) = .ok t') :
    (d.replace t').Sound ∧ d.Grows (d.replace t') := by
  obtain ⟨-, hget, hentity⟩ := h.entityTable ht
  have hjoin := Table.not_isJoinTable hentity
  have hnew := foreignKeyIn_foreignKey hkey hjoin name nullable
  apply h.putBack _ (fun _ => hget) ((h.table _ t hget).addColumn hnew hadd)
    (TableSound.grows hnew hadd)
  intro u hu
  rw [hget] at hu
  exact (Option.some.inj hu).symm

/-- The join table that is asked for is new or, if it is shared, the one of
its name. -/
theorem Draft.Sound.joinTable (h : d.Sound) {name : String} {shared : Bool}
    (ht : joinTable d name shared = .ok t) :
    t.name = name ∧ t.isJoinTable = true ∧ TableSound d.tables t ∧
      ∀ u, d.tables.get? name = some u → u = t ∧ shared = true := by
  unfold Storage.joinTable at ht
  split at ht
  · next hnone =>
      cases ht
      refine ⟨rfl, rfl, TableSound.emptyJoin _ _, ?_⟩
      intro u hu
      rw [hnone] at hu
      cases hu
  · next u hu =>
      split at ht
      · next hcond =>
          cases ht
          rw [Bool.and_eq_true] at hcond
          refine ⟨h.stored _ _ hu, hcond.2, h.table _ _ hu, ?_⟩
          intro u' hu'
          rw [hu] at hu'
          exact ⟨(Option.some.inj hu').symm, hcond.1⟩
      · cases ht

/-- Storing two foreign keys in a join table. -/
theorem Draft.Sound.addJoinColumns {t₁ t₂ : Table} {other name : String}
    {target : ColumnRef} {targetType : ColumnType} {shared : Bool}
    {ownName otherName : String} (h : d.Sound)
    (hkey : d.IsKeyOf entity key type)
    (htarget : d.IsKeyOf other target targetType)
    (ht : Storage.joinTable d name shared = .ok t)
    (hone : t.addColumn (joinColumn ownName type key) = .ok t₁)
    (hother : t₁.addColumn (joinColumn otherName targetType target)
      = .ok t₂) :
    (d.replace t₂).Sound ∧ d.Grows (d.replace t₂) ∧
      t₁.Grows t₂ ∧ t₂.name = name ∧ t₂.isJoinTable = true := by
  obtain ⟨hname, hjoin, hsound, hplace⟩ := h.joinTable ht
  have hnew₁ := foreignKeyIn_joinColumn hkey hjoin ownName
  have hgrows₁ := TableSound.grows hnew₁ hone
  have hjoin₁ := hgrows₁.isJoinTable.trans hjoin
  -- the second column is added to the table that the first one made
  have hnew₂ := foreignKeyIn_joinColumn htarget hjoin₁ otherName
  have hgrows₂ := TableSound.grows hnew₂ hother
  have hsound₂ := (hsound.addColumn hnew₁ hone).addColumn hnew₂ hother
  obtain ⟨hdraft, hgrow⟩ := h.putBack
    (fun u hu => (hplace u (hname ▸ hu)).1)
    (fun hentity => by rw [hjoin] at hentity; cases hentity)
    hsound₂ (hgrows₁.trans hgrows₂)
  exact ⟨hdraft, hgrow, hgrows₂, by rw [hgrows₂.name, hgrows₁.name, hname],
    hgrows₂.isJoinTable.trans hjoin₁⟩

theorem Linked.sound_and_grows (h : Linked s d e f kind d' l)
    (hd : d.Sound) : d'.Sound ∧ d.Grows d' := by
  cases h with
  | belongsTo hkey htable hadd =>
      exact hd.addForeignKey (hd.isKeyOf hkey) htable hadd
  | has _ hkey _ htable hadd =>
      exact hd.addForeignKey (hd.isKeyOf hkey) htable hadd
  | belongsToMany hkey htarget _ htable hone hother =>
      obtain ⟨hdraft, hgrow, -⟩ := hd.addJoinColumns (hd.isKeyOf hkey)
        (hd.isKeyOf htarget) htable hone hother
      exact ⟨hdraft, hgrow⟩

theorem Linked.sound (h : Linked s d e f kind d' l) (hd : d.Sound) :
    d'.Sound :=
  (h.sound_and_grows hd).1

theorem Linked.grows (h : Linked s d e f kind d' l) (hd : d.Sound) :
    d.Grows d' :=
  (h.sound_and_grows hd).2

/-! ## §3. What a step stores. -/

/-- The foreign key of an entity's table by which an association is stored. -/
def Link.foreignKey? : Link → Option ColumnRef
  | .manyToOne column _ => some column
  | .oneToMany _ column => some column
  | .manyToMany _ _ _ => none

/-- The join table by which an association is stored. -/
def Link.joinTable? : Link → Option String
  | .manyToMany table _ _ => some table
  | _ => none

/-- How the draft `d` holds the field `f` of `e`. -/
inductive Stored (s : Schema) (d : Draft) (e : Entity) (f : Field) :
    Association → Link → Prop where
  | belongsTo {key : ColumnRef} {type : ColumnType} {table : String}
      (hkey : d.IsKeyOf f.baseType key type)
      (htable : d.entityTables.get? e.name = some table)
      (hrefers : RefersIn d.tables ⟨table, foreignKeyName f.name⟩ key) :
      Stored s d e f .belongsTo
        (.manyToOne ⟨table, foreignKeyName f.name⟩ key)
  | has {kind : Association} {key : ColumnRef} {type : ColumnType}
      {name table : String} (hkind : kind.isHas = true)
      (hkey : d.IsKeyOf e.name key type)
      (hname : foreignName s e f = .ok name)
      (htable : d.entityTables.get? f.baseType = some table)
      (hrefers : RefersIn d.tables ⟨table, foreignKeyName name⟩ key) :
      Stored s d e f kind (.oneToMany key ⟨table, foreignKeyName name⟩)
  | belongsToMany {key target : ColumnRef} {type targetType : ColumnType}
      {shared : Bool} {n : String} {t : Table}
      (hkey : d.IsKeyOf e.name key type)
      (htarget : d.IsKeyOf f.baseType target targetType)
      (hshared : sharesJoinTable s e f = .ok shared)
      (hname : n = joinNameOf shared key.table target.table f)
      (htable : d.tables.get? n = some t) (hjoin : t.isJoinTable = true)
      (hself : RefersIn d.tables ⟨n, foreignKeyName e.name⟩ key)
      (hother : RefersIn d.tables ⟨n, foreignKeyName (farName e f)⟩ target) :
      Stored s d e f .belongsToMany
        (.manyToMany n ⟨n, foreignKeyName e.name⟩
          ⟨n, foreignKeyName (farName e f)⟩)

/-- What is stored stays stored. -/
theorem Stored.mono (h : Stored s d e f kind l) (hgrow : d.Grows d') :
    Stored s d' e f kind l := by
  cases h with
  | belongsTo hkey htable hrefers =>
      exact .belongsTo (hkey.mono hgrow)
        (by rw [hgrow.entityTables]; exact htable)
        (hgrow.tables.refersIn hrefers)
  | has hkind hkey hname htable hrefers =>
      exact .has hkind (hkey.mono hgrow) hname
        (by rw [hgrow.entityTables]; exact htable)
        (hgrow.tables.refersIn hrefers)
  | belongsToMany hkey htarget hshared hname htable hjoin hself hother =>
      obtain ⟨t', htable', hgrows⟩ := hgrow.tables _ _ htable
      exact .belongsToMany (hkey.mono hgrow) (htarget.mono hgrow) hshared
        hname htable' (hgrows.isJoinTable.trans hjoin)
        (hgrow.tables.refersIn hself) (hgrow.tables.refersIn hother)

/-- After a table was put back, the column added to it refers to its key. -/
theorem refersIn_replace {new : Column} {n : String}
    (hadd : t.addColumn new = .ok t') (hname : new.name = n)
    (href : new.references = some key) :
    RefersIn (d.replace t').tables ⟨t'.name, n⟩ key := by
  obtain ⟨c, hc, hsame⟩ := column?_addColumn hadd
  rw [hname] at hc
  exact ⟨t', c, d.get?_replace t', hc, hsame.trans href⟩

/-- A step stores its association. -/
theorem Linked.stored (h : Linked s d e f kind d' l) (hd : d.Sound) :
    Stored s d' e f kind l := by
  have hgrow := h.grows hd
  cases h with
  | belongsTo hkey htable hadd =>
      -- adding a column does not change where the table stands
      obtain ⟨htab, -, -⟩ := hd.entityTable htable
      rw [← name_addColumn hadd] at htab
      exact .belongsTo ((hd.isKeyOf hkey).mono hgrow) htab
        (refersIn_replace hadd rfl rfl)
  | has hkind hkey hname htable hadd =>
      obtain ⟨htab, -, -⟩ := hd.entityTable htable
      rw [← name_addColumn hadd] at htab
      exact .has hkind ((hd.isKeyOf hkey).mono hgrow) hname htab
        (refersIn_replace hadd rfl rfl)
  | @belongsToMany key target _ _ _ t t₁ t₂ hkey htarget hshared htable hone
      hother =>
      obtain ⟨-, -, hgrows, hname, hjoin⟩ := hd.addJoinColumns
        (hd.isKeyOf hkey) (hd.isKeyOf htarget) htable hone hother
      -- the first column was added before the second
      have hself : RefersIn (d.replace t₂).tables
          ⟨t₂.name, foreignKeyName e.name⟩ key := by
        obtain ⟨c, hc, href⟩ := column?_addColumn hone
        obtain ⟨c', hc', hshape⟩ := hgrows.column hc
        have href' := (Column.eq_of_shape hshape).2.2.2
        exact ⟨t₂, c', d.get?_replace t₂, hc', href'.trans href⟩
      have hother' : RefersIn (d.replace t₂).tables
          ⟨t₂.name, foreignKeyName (farName e f)⟩ target :=
        refersIn_replace hother rfl rfl
      have htable' := d.get?_replace t₂
      -- the link is given by the name that was asked for
      show Stored s (d.replace t₂) e f .belongsToMany
        (.manyToMany _ ⟨t₂.name, _⟩ ⟨t₂.name, _⟩)
      rw [← hname]
      exact .belongsToMany ((hd.isKeyOf hkey).mono hgrow)
        ((hd.isKeyOf htarget).mono hgrow) hshared hname htable' hjoin hself
        hother'

end Invariant

end SchemaTables.Storage
