/-
  SchemaTables.Proofs.Storage.JoinTables
  ──────────────────────────────────────
  **WHICH ASSOCIATIONS SHARE A JOIN TABLE.**

  A join table is meant to be shared by the two sides of one association and
  by nothing else.  The name that a `belongsToMany` asks for is a function of
  the schema (`joinTableFor?`), and two schemes for it meet:

      shared   both tables, joined by `_`     books_tags
      own      the table and the field        books_tags

  A name that is taken is refused to whoever wants it as its own, but given
  to whoever would share it, without a look at whose it is.  So sharing is
  right between the same two entities, whatever the order, and wrong between
  others: join tables are paired in just the schemas in which no name is
  asked for by associations between different entities
  (`joinTables_paired_iff`).  What is refused, and only that, is reported
  (`Running.reports_iff`).
-/
import Mathlib.Data.List.Pairwise
import SchemaTables.Proofs.Elaboration.Keyed
import SchemaTables.Proofs.Storage.ForeignKeys

namespace SchemaTables.Storage

open Sdl Elaboration

/-! ## §1. The name that is asked for. -/

/-- The name of the join table that an association asks for. -/
def joinTableFor? (s : Schema) (a : Entity × Field × Association) :
    Option String :=
  match a.2.2, s.get? a.2.1.baseType, sharesJoinTable s a.1 a.2.1 with
  | .belongsToMany, some target, .ok shared =>
      some (joinNameOf shared (tableName a.1) (tableName target) a.2.1)
  | _, _, _ => none

theorem joinTableFor?_eq_some {s : Schema}
    {a : Entity × Field × Association} {n : String} :
    joinTableFor? s a = some n ↔
      a.2.2 = .belongsToMany ∧ ∃ target shared,
        s.get? a.2.1.baseType = some target ∧
          sharesJoinTable s a.1 a.2.1 = .ok shared ∧
          joinNameOf shared (tableName a.1) (tableName target) a.2.1 = n := by
  unfold joinTableFor?
  constructor
  · intro h
    split at h
    · next target shared hkind htarget hshared =>
        cases h
        exact ⟨hkind, target, shared, htarget, hshared, rfl⟩
    · cases h
  · intro hx
    obtain ⟨hkind, target, shared, htarget, hshared, rfl⟩ := hx
    rw [hkind, htarget, hshared]

/-- Do two associations relate the same two entities? -/
def SameEntities (a b : Entity × Field × Association) : Prop :=
  (a.1.name = b.1.name ∧ a.2.1.baseType = b.2.1.baseType) ∨
    (a.1.name = b.2.1.baseType ∧ a.2.1.baseType = b.1.name)

/-- No name is asked for by associations between different entities. -/
def JoinTablesApart (s : Schema) : Prop :=
  ∀ a ∈ s.associations, ∀ b ∈ s.associations, ∀ n,
    joinTableFor? s a = some n → joinTableFor? s b = some n →
      SameEntities a b

/-- Join tables are shared by the two sides of an association only. -/
def Model.JoinTablesPaired (m : Model) : Prop :=
  ∀ r ∈ m.relations, ∀ r' ∈ m.relations,
    (r.entity, r.field) ≠ (r'.entity, r'.field) → ∀ n,
      r.link.joinTable? = some n → r'.link.joinTable? = some n →
        r.entity = r'.target ∧ r.target = r'.entity ∧ r.entity ≠ r'.entity

instance (m : Model) : Decidable m.JoinTablesPaired :=
  inferInstanceAs (Decidable (∀ r ∈ m.relations, ∀ r' ∈ m.relations,
    (r.entity, r.field) ≠ (r'.entity, r'.field) → ∀ n ∈ r.link.joinTable?,
      r'.link.joinTable? = some n → _))

/-! ## §2. The name that is given. -/

section Given

variable {s : Schema} {as : List (Entity × Field × Association)} {d : Draft}
  {rels : List Relation} {a b : Entity × Field × Association} {l : Link}
  {n : String}

/-- The names of the two tables are those under which the draft has them. -/
theorem Running.joinTableFor?_eq {e : Entity} {f : Field}
    {key target : ColumnRef} {type targetType : ColumnType} {shared : Bool}
    (h : Running s as d rels) (hkeyed : s.WellKeyed) (he : e ∈ s.toList)
    (hkey : d.IsKeyOf e.name key type)
    (htarget : d.IsKeyOf f.baseType target targetType)
    (hshared : sharesJoinTable s e f = .ok shared) :
    joinTableFor? s (e, f, .belongsToMany)
      = some (joinNameOf shared key.table target.table f) := by
  obtain ⟨e', hget, hname⟩ := (h.entityTable_iff hkeyed).mp hkey.table
  rw [hkeyed.get?_name he] at hget
  cases hget
  obtain ⟨t, hget, htname⟩ := (h.entityTable_iff hkeyed).mp htarget.table
  rw [joinTableFor?_eq_some]
  refine ⟨rfl, t, shared, hget, hshared, ?_⟩
  rw [hname, htname]

/-- The join table of a relation is the one that was asked for. -/
theorem Running.joinTable?_eq (h : Running s as d rels)
    (hkeyed : s.WellKeyed) (ha : a ∈ s.associations)
    (hstored : Stored s d a.1 a.2.1 a.2.2 l) :
    l.joinTable? = joinTableFor? s a := by
  obtain ⟨e, f, kind⟩ := a
  obtain ⟨he, -⟩ := Schema.mem_associations.mp ha
  cases hstored with
  | belongsTo => rfl
  | has hkind =>
      cases kind <;> first | rfl | cases hkind
  | belongsToMany hkey htarget hshared hname _ _ _ _ =>
      rw [h.joinTableFor?_eq hkeyed he hkey htarget hshared, hname]
      rfl

theorem Stored.joinTable {e : Entity} {f : Field} {kind : Association}
    (h : Stored s d e f kind l) (hn : l.joinTable? = some n) :
    ∃ t, d.tables.get? n = some t := by
  cases h with
  | belongsTo => cases hn
  | has => cases hn
  | belongsToMany _ _ _ _ htable _ _ _ =>
      cases hn
      exact ⟨_, htable⟩

/-- A name that was asked for is taken by a table. -/
theorem Running.taken (h : Running s as d rels) (hkeyed : s.WellKeyed)
    (hb : b ∈ as) (hb' : b ∈ s.associations)
    (hn : joinTableFor? s b = some n) : ∃ t, d.tables.get? n = some t := by
  obtain ⟨r, -, hr⟩ := exists_right_of_forall₂ h.records b hb
  apply hr.stored.joinTable
  rw [h.joinTable?_eq hkeyed hb' hr.stored, hn]

/-- An association that is given a taken name shares its join table. -/
theorem Running.shares {d' : Draft} (h : Running s as d rels)
    (hkeyed : s.WellKeyed) (ha : a ∈ s.associations)
    (hlink : Linked s d a.1 a.2.1 a.2.2 d' l)
    (hn : joinTableFor? s a = some n) {t : Table}
    (ht : d.tables.get? n = some t) :
    sharesJoinTable s a.1 a.2.1 = .ok true := by
  obtain ⟨e, f, kind⟩ := a
  obtain ⟨he, -⟩ := Schema.mem_associations.mp ha
  have hkind := (joinTableFor?_eq_some.mp hn).1
  cases hlink with
  | belongsTo => cases hkind
  | has hhas =>
      rw [show kind = .belongsToMany from hkind] at hhas
      cases hhas
  | belongsToMany hkey htarget hshared htable _ _ =>
      have hname := h.joinTableFor?_eq hkeyed he (h.sound.isKeyOf hkey)
        (h.sound.isKeyOf htarget) hshared
      rw [hn] at hname
      -- a table that was there is only handed out to be shared
      obtain ⟨-, -, -, hplace⟩ := h.sound.joinTable htable
      obtain ⟨-, htrue⟩ := hplace t (Option.some.inj hname ▸ ht)
      rw [hshared, htrue]

end Given

/-! ## §3. Sharing, in the order of the associations. -/

/-- If both ask for one name, the second shares it. -/
def SecondShares (s : Schema) (a b : Entity × Field × Association) : Prop :=
  ∀ n, joinTableFor? s a = some n → joinTableFor? s b = some n →
    sharesJoinTable s b.1 b.2.1 = .ok true

/-- Whoever comes second to a name shares it. -/
theorem linkAll_secondShares {s : Schema} {d : Draft} {rels : List Relation}
    (hkeyed : s.WellKeyed)
    (run : linkAll s s.associations = .ok (d, rels)) :
    s.associations.Pairwise (SecondShares s) := by
  refine (linkAll_invariant
    (fun done _ _ => done.Pairwise (SecondShares s)) ?_ ?_ run).2
  · intro d₀ _
    exact .nil
  · intro done a d rels d' l hrest hrunning hpairs hlink
    obtain ⟨rest, has⟩ := hrest
    obtain ⟨hsub, ha⟩ := mem_of_split has
    rw [List.pairwise_append]
    refine ⟨hpairs, List.pairwise_singleton _ a, ?_⟩
    intro b hb a' ha' n hbn han
    rw [List.mem_singleton] at ha'
    subst ha'
    obtain ⟨t, ht⟩ := hrunning.taken hkeyed hb (hsub b hb) hbn
    exact hrunning.shares hkeyed ha hlink han ht

/-- Of two associations that ask for one name, one shares it. -/
theorem shares_of_same_name {s : Schema} {m : Model} (hkeyed : s.WellKeyed)
    (h : build s = .ok m) {a b : Entity × Field × Association}
    (ha : a ∈ s.associations) (hb : b ∈ s.associations) (hne : a ≠ b)
    {n : String} (han : joinTableFor? s a = some n)
    (hbn : joinTableFor? s b = some n) :
    sharesJoinTable s a.1 a.2.1 = .ok true ∨
      sharesJoinTable s b.1 b.2.1 = .ok true := by
  obtain ⟨d, rels, hrun, -⟩ := build_eq_ok h
  -- without the order of the two, either of them may be the one
  let R (a b : Entity × Field × Association) : Prop :=
    joinTableFor? s a = some n → joinTableFor? s b = some n →
      sharesJoinTable s a.1 a.2.1 = .ok true ∨
        sharesJoinTable s b.1 b.2.1 = .ok true
  have hsymm : Std.Symm R := ⟨fun a b hR hb ha => (hR ha hb).symm⟩
  have hpairs : s.associations.Pairwise R :=
    (linkAll_secondShares hkeyed hrun).imp fun hab ha hb =>
      .inr (hab n ha hb)
  exact hpairs.forall ha hb hne han hbn

/-- One who shares is the only one between its entities. -/
theorem siblings_of_shares {s : Schema} {e : Entity} {f : Field}
    (h : sharesJoinTable s e f = .ok true) :
    (e.associationsTo f.baseType (· = .belongsToMany)).length = 1 := by
  unfold sharesJoinTable at h
  dsimp only at h
  split at h
  · simpa using h
  · split at h
    · next hcond =>
        rw [Bool.and_eq_true, decide_eq_true_eq] at hcond
        exact hcond.1
    · split at h <;> cases h

/-- Two fields of one entity that lead to one target share no join table. -/
theorem not_shares_of_sibling {s : Schema} {e : Entity} {f g : Field}
    (hf : (f, .belongsToMany) ∈ e.associations)
    (hg : (g, .belongsToMany) ∈ e.associations)
    (htarget : f.baseType = g.baseType) (hne : f ≠ g) :
    sharesJoinTable s e f ≠ .ok true := by
  intro h
  have hf' : f ∈ e.associationsTo f.baseType (· = .belongsToMany) :=
    Entity.mem_associationsTo.mpr ⟨_, hf, rfl, by simp⟩
  have hg' : g ∈ e.associationsTo f.baseType (· = .belongsToMany) :=
    Entity.mem_associationsTo.mpr ⟨_, hg, htarget.symm, by simp⟩
  exact Entity.length_associationsTo_ne_one hf' hg' hne
    (siblings_of_shares h)

/-! ## §4. Names that are refused. -/

/-- The name `n` is taken, and not to be shared: a table that stores an
entity has it, or the association wants it as its own. -/
def JoinTableRefused (s : Schema)
    (done : List (Entity × Field × Association))
    (a : Entity × Field × Association) (n : String) : Prop :=
  (∃ e ∈ s.toList, tableName e = n) ∨
    (sharesJoinTable s a.1 a.2.1 = .ok false ∧
      ∃ b ∈ done, joinTableFor? s b = some n)

/-- A name is refused where a table has it that cannot be shared. -/
theorem joinTable_eq_error {d : Draft} {n : String} {shared : Bool}
    {x : StorageError} :
    joinTable d n shared = .error x ↔
      x = .duplicateTable n ∧ ∃ t, d.tables.get? n = some t ∧
        (shared && t.isJoinTable) = false := by
  unfold joinTable
  cases d.tables.get? n with
  | none => simp
  | some t =>
      have hone : (∃ u, some t = some u ∧ (shared && u.isJoinTable) = false) ↔
          (shared && t.isJoinTable) = false := by
        constructor
        · intro hx
          obtain ⟨u, hu, hcond⟩ := hx
          cases hu
          exact hcond
        · intro hcond
          exact ⟨t, rfl, hcond⟩
      rw [hone]
      dsimp only
      cases shared && t.isJoinTable with
      | true => simp
      | false => simp [eq_comm]

section Refused

variable {s : Schema} {done : List (Entity × Field × Association)}
  {d : Draft} {rels : List Relation} {a : Entity × Field × Association}
  {n : String}

/-- In terms of the schema: which tables cannot be shared. -/
theorem Running.refused_iff (h : Running s done d rels)
    (haccounted : Accounted d rels) (hkeyed : s.WellKeyed)
    (hsub : ∀ b ∈ done, b ∈ s.associations) {shared : Bool}
    (hshared : sharesJoinTable s a.1 a.2.1 = .ok shared) :
    (∃ t, d.tables.get? n = some t ∧ (shared && t.isJoinTable) = false) ↔
      JoinTableRefused s done a n := by
  constructor
  · intro hx
    obtain ⟨t, ht, hcond⟩ := hx
    cases hjoin : t.isJoinTable with
    | false =>
        -- a table that stores an entity is named after it
        left
        obtain ⟨entity, hentity⟩ :=
          Option.isSome_iff_exists.mp (Table.not_isJoinTable_iff.mp hjoin)
        have hown := h.owner hkeyed.names_nodup ht hentity
        obtain ⟨e, hget, hname⟩ := (h.entityTable_iff hkeyed).mp hown
        exact ⟨e, Schema.mem_toList hget, hname⟩
    | true =>
        -- a join table belongs to a relation, so it was asked for
        right
        rw [hjoin, Bool.and_true] at hcond
        obtain ⟨r, hr, hlink⟩ := haccounted.table n t ht hjoin
        obtain ⟨b, hb, hrb⟩ := exists_left_of_forall₂ h.records r hr
        refine ⟨hcond ▸ hshared, b, hb, ?_⟩
        rw [← h.joinTable?_eq hkeyed (hsub b hb) hrb.stored, hlink,
          h.sound.stored n t ht]
  · intro hx
    rcases hx with ⟨e, he, hname⟩ | ⟨hfalse, b, hb, hbn⟩
    · have hmine := (h.entityTable_iff hkeyed).mpr
        ⟨e, hkeyed.get?_name he, rfl⟩
      obtain ⟨t, ht, hentity⟩ := h.sound.entity _ _ hmine
      rw [hname] at ht
      refine ⟨t, ht, ?_⟩
      rw [Table.not_isJoinTable hentity, Bool.and_false]
    · obtain ⟨t, ht⟩ := h.taken hkeyed hb (hsub b hb) hbn
      rw [hshared] at hfalse
      cases hfalse
      exact ⟨t, ht, rfl⟩

/-- A name is reported as a duplicate if and only if it is refused. -/
theorem Running.reports_iff (h : Running s done d rels)
    (haccounted : Accounted d rels) (hkeyed : s.WellKeyed)
    (hsub : ∀ b ∈ done, b ∈ s.associations) (ha : a ∈ s.associations)
    (hn : joinTableFor? s a = some n) :
    link s d a.1 a.2.1 a.2.2 = .error (.duplicateTable n) ↔
      JoinTableRefused s done a n := by
  obtain ⟨e, f, kind⟩ := a
  obtain ⟨he, -⟩ := Schema.mem_associations.mp ha
  obtain ⟨hkind, target, shared, hget, hshared, rfl⟩ :=
    joinTableFor?_eq_some.mp hn
  obtain ⟨key, type, hkey, -, hname⟩ :=
    h.keyFound hkeyed (hkeyed.get?_name he) e f
  obtain ⟨tkey, ttype, htarget, -, htname⟩ := h.keyFound hkeyed hget e f
  rw [← h.refused_iff haccounted hkeyed hsub hshared]
  dsimp only at hkind ⊢
  subst hkind
  show linkBelongsToMany s d e f = _ ↔ _
  rw [linkBelongsToMany_eq hkey htarget hshared, hname, htname, bind_eq_error,
    joinTable_eq_error]
  constructor
  · intro hx
    rcases hx with ⟨-, htable⟩ | ⟨t, -, hadd⟩
    · exact htable
    · -- a column that is refused is reported as such
      rw [bind_eq_error, addColumn_eq_error rfl] at hadd
      rcases hadd with ⟨hx, -⟩ | ⟨t₁, -, hadd⟩
      · cases hx
      · rw [bind_eq_error, addColumn_eq_error rfl] at hadd
        rcases hadd with ⟨hx, -⟩ | ⟨t₂, -, hadd⟩
        · cases hx
        · cases hadd
  · intro htable
    exact .inl ⟨rfl, htable⟩

end Refused

/-! ## §5. The two sides. -/

/-- If all who ask for a name are between the same entities, join tables are
paired. -/
theorem paired_of_apart {s : Schema} {m : Model} (hkeyed : s.WellKeyed)
    (h : build s = .ok m) (hapart : JoinTablesApart s) :
    m.JoinTablesPaired := by
  obtain ⟨d, rels, hrun, rfl⟩ := build_eq_ok h
  have hrunning := linkAll_running hrun
  intro r hr r' hr' hne n hn hn'
  obtain ⟨a, ha, hra⟩ := exists_left_of_forall₂ hrunning.records r hr
  obtain ⟨b, hb, hrb⟩ := exists_left_of_forall₂ hrunning.records r' hr'
  have han : joinTableFor? s a = some n := by
    rw [← hrunning.joinTable?_eq hkeyed ha hra.stored, hn]
  have hbn : joinTableFor? s b = some n := by
    rw [← hrunning.joinTable?_eq hkeyed hb hrb.stored, hn']
  have hab : a ≠ b := by
    intro heq
    subst heq
    apply hne
    rw [hra.eq, hrb.eq]
    rfl
  -- two fields of one entity that lead to one target are both refused
  have hcross : ¬ (a.1.name = b.1.name ∧ a.2.1.baseType = b.2.1.baseType) := by
    intro hx
    obtain ⟨hentity, htarget⟩ := hx
    obtain ⟨e, f, kind⟩ := a
    obtain ⟨e', f', kind'⟩ := b
    obtain ⟨he, hf⟩ := Schema.mem_associations.mp ha
    obtain ⟨he', hf'⟩ := Schema.mem_associations.mp hb
    have heq := hkeyed.eq_of_name he he' hentity
    subst heq
    have hk : kind = .belongsToMany := (joinTableFor?_eq_some.mp han).1
    have hk' : kind' = .belongsToMany := (joinTableFor?_eq_some.mp hbn).1
    subst hk hk'
    have hff : f ≠ f' := by
      intro heq
      subst heq
      exact hab rfl
    rcases shares_of_same_name hkeyed h ha hb hab han hbn with hs | hs
    · exact not_shares_of_sibling hf hf' htarget hff hs
    · exact not_shares_of_sibling hf' hf htarget.symm hff.symm hs
  rcases hapart a ha b hb n han hbn with hsame | ⟨hentity, htarget⟩
  · exact absurd hsame hcross
  · rw [hra.eq, hrb.eq]
    refine ⟨hentity, htarget, ?_⟩
    intro heq
    have heq' : a.1.name = b.1.name := heq
    exact hcross ⟨heq', by rw [htarget, ← heq', hentity]⟩

/-- If join tables are paired, all who ask for a name are between the same
entities. -/
theorem apart_of_paired {s : Schema} {m : Model} (hkeyed : s.WellKeyed)
    (h : build s = .ok m) (hpaired : m.JoinTablesPaired) :
    JoinTablesApart s := by
  obtain ⟨d, rels, hrun, rfl⟩ := build_eq_ok h
  have hrunning := linkAll_running hrun
  intro a ha b hb n han hbn
  by_cases hab : a = b
  · subst hab
    exact .inl ⟨rfl, rfl⟩
  · obtain ⟨r, hr, hra⟩ := exists_right_of_forall₂ hrunning.records a ha
    obtain ⟨r', hr', hrb⟩ := exists_right_of_forall₂ hrunning.records b hb
    have hn := hrunning.joinTable?_eq hkeyed ha hra.stored
    have hn' := hrunning.joinTable?_eq hkeyed hb hrb.stored
    have hne : (r.entity, r.field) ≠ (r'.entity, r'.field) := by
      rw [hra.eq, hrb.eq]
      intro heq
      rw [Prod.mk.injEq] at heq
      exact hab (hkeyed.eq_of_names ha hb heq.1 heq.2)
    obtain ⟨hentity, htarget, -⟩ :=
      hpaired r hr r' hr' hne n (hn.trans han) (hn'.trans hbn)
    rw [hra.eq, hrb.eq] at hentity htarget
    exact .inr ⟨hentity, htarget⟩

/-- For a schema from documents: join tables are paired if and only if no
name is asked for by associations between different entities.  A name is
reported as a duplicate, and ends the run, if and only if it is taken and not
to be shared. -/
theorem joinTables_paired_iff {options : Options} {docs : List Document}
    {s : Schema} (hs : (elaborate options docs).result = .ok s) :
    (∀ m, build s = .ok m → (m.JoinTablesPaired ↔ JoinTablesApart s)) ∧
    ∀ done a rest d rels n, s.associations = done ++ a :: rest →
      linkAll s done = .ok (d, rels) → joinTableFor? s a = some n →
        (link s d a.1 a.2.1 a.2.2 = .error (.duplicateTable n) ↔
          JoinTableRefused s done a n) ∧
        (JoinTableRefused s done a n →
          build s = .error (.duplicateTable n)) := by
  have hkeyed := wellKeyed_of_elaborate hs
  refine ⟨?_, ?_⟩
  · intro m hm
    exact ⟨apart_of_paired hkeyed hm, paired_of_apart hkeyed hm⟩
  · intro done a rest d rels n has hrun hn
    obtain ⟨hsub, ha⟩ := mem_of_split has
    have hreports := (linkAll_running hrun).reports_iff
      (linkAll_accounted hrun) hkeyed hsub ha hn
    exact ⟨hreports, fun hrefused =>
      build_eq_error has hrun (hreports.mpr hrefused)⟩

/-- Books and tags share a join table from both sides, as they should. -/
theorem joinTables_paired_bookshelf :
    ∃ s m, (elaborate {} [bookshelf]).result = .ok s ∧ build s = .ok m ∧
      (m.relations.filterMap fun r => r.link.joinTable?.map fun n =>
        (r.entity, n)) = [("Book", "books_tags"), ("Tag", "books_tags")] ∧
      m.JoinTablesPaired ∧ JoinTablesApart s := by
  have hrun : (modelOf [bookshelf]).map (fun sm =>
      (sm.2.relations.filterMap fun r => r.link.joinTable?.map fun n =>
        (r.entity, n), decide sm.2.JoinTablesPaired)) =
      some ([("Book", "books_tags"), ("Tag", "books_tags")], true) := by
    decide +kernel
  obtain ⟨⟨s, m⟩, hmodel, hboth⟩ := Option.map_eq_some_iff.mp hrun
  obtain ⟨hs, hm⟩ := modelOf_eq_some.mp hmodel
  rw [Prod.mk.injEq, decide_eq_true_eq] at hboth
  obtain ⟨htables, hpaired⟩ := hboth
  exact ⟨s, m, hs, hm, htables, hpaired,
    ((joinTables_paired_iff hs).1 m hm).mp hpaired⟩

/-! ## §6. A name with two meanings. -/

/-- The tags of a book are authors, its labels are tags: the first have the
join table `books_tags` as their own, the second would share it. -/
def taggedBooks : Document where
  definitions :=
    [ objectType "Book" "Books"
        [ associationTo "Author" "tags" .belongsToMany,
          associationTo "Author" "editors" .belongsToMany,
          associationTo "Tag" "labels" .belongsToMany ],
      objectType "Author" "Authors" [plainField "id" "ID"],
      objectType "Tag" "Tags" [plainField "id" "ID"] ]

/-- Two associations of one entity may end up in one join table. -/
theorem joinTables_not_paired :
    ∃ s m, (elaborate {} [taggedBooks]).result = .ok s ∧ build s = .ok m ∧
      ¬ m.JoinTablesPaired := by
  have hrun : (modelOf [taggedBooks]).map (fun sm =>
      sm.2.relations.map fun r => (r.entity, r.field, r.link.joinTable?)) =
      some [("Book", "tags", some "books_tags"),
        ("Book", "editors", some "books_editors"),
        ("Book", "labels", some "books_tags")] := by
    decide +kernel
  obtain ⟨⟨s, m⟩, hmodel, hrelations⟩ := Option.map_eq_some_iff.mp hrun
  obtain ⟨hs, hm⟩ := modelOf_eq_some.mp hmodel
  obtain ⟨r, hr, hrx⟩ := exists_of_map_eq hrelations
    (b := ("Book", "tags", some "books_tags")) (by simp)
  obtain ⟨r', hr', hrx'⟩ := exists_of_map_eq hrelations
    (b := ("Book", "labels", some "books_tags")) (by simp)
  simp only [Prod.mk.injEq] at hrx hrx'
  obtain ⟨hentity, hfield, htable⟩ := hrx
  obtain ⟨hentity', hfield', htable'⟩ := hrx'
  refine ⟨s, m, hs, hm, ?_⟩
  intro hpaired
  have hne : (r.entity, r.field) ≠ (r'.entity, r'.field) := by
    rw [hfield, hfield']
    simp
  have hsides := hpaired r hr r' hr' hne "books_tags" htable htable'
  exact hsides.2.2 (hentity.trans hentity'.symm)

end SchemaTables.Storage
