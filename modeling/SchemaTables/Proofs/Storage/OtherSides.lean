/-
  SchemaTables.Proofs.Storage.OtherSides
  ──────────────────────────────────────
  **NO ASSOCIATION HAS SEVERAL OTHER SIDES.**

  Fields of two entities that lead to each other are the two sides of one
  association.  So there are none of them at one of the two entities, or one
  at each (`OneOtherSide`):

      A.f : hasOne, hasMany B    beside   B.g : belongsTo A
      A.f : belongsToMany B      beside   B.g : belongsToMany A,  A and B apart

  A field is stored with a look at its own siblings and at what leads back to
  it, and is refused as ambiguous by what it sees from there.  All the same
  the rule is one about pairs of entities: a schema that can be stored keeps
  to it throughout, and a field that is refused breaks it (`other_sides`).
-/
import SchemaTables.Proofs.Storage.Failures
import SchemaTables.Proofs.Storage.Sides

namespace SchemaTables.Storage

open Sdl Elaboration

/-! ## §1. The rule. -/

/-- Of the fields that lead `there` and those that lead `back` there are none
on one side, or one on each. -/
def OneOtherSide (there back : Nat) : Prop :=
  there = 0 ∨ back = 0 ∨ there = 1 ∧ back = 1

instance (there back : Nat) : Decidable (OneOtherSide there back) :=
  inferInstanceAs (Decidable (_ ∨ _))

/-- The rule for the foreign keys that `a` has in the table of `b`. -/
def KeysPair (a b : Entity) : Prop :=
  OneOtherSide (a.associationsTo b.name Association.isHas).length
    (b.associationsTo a.name (· = .belongsTo)).length

/-- The rule for the join tables of `a` and `b`. -/
def JoinTablesPair (a b : Entity) : Prop :=
  OneOtherSide (a.associationsTo b.name (· = .belongsToMany)).length
    (b.associationsTo a.name (· = .belongsToMany)).length

/-! ## §2. What a field sees of it. -/

section Fields

variable {s : Schema} {a b : Entity} {f : Field} {kind : Association}
  {x : StorageError} {test : Association → Bool}

/-- What leads back to a field comes from its target. -/
theorem exists_target (hkeyed : s.EntitiesKeyed)
    (h : inverses s a f test ≠ []) : ∃ b ∈ s.toList, b.name = f.baseType := by
  unfold inverses at h
  split at h
  · next b hb => exact ⟨b, Schema.mem_toList hb, hkeyed _ b hb⟩
  · exact absurd rfl h

/-- A field is one of its own siblings. -/
theorem length_siblings_ne_zero (hf : (f, kind) ∈ a.associations)
    (htest : test kind = true) :
    (a.associationsTo f.baseType test).length ≠ 0 := by
  intro hzero
  have hmem : f ∈ a.associationsTo f.baseType test :=
    Entity.mem_associationsTo.mpr ⟨kind, hf, rfl, htest⟩
  rw [List.length_eq_zero_iff.mp hzero] at hmem
  cases hmem

/-- The name for a foreign key is ambiguous where the rule is broken. -/
theorem foreignName_eq_error
    (hf : (a.associationsTo f.baseType Association.isHas).length ≠ 0) :
    foreignName s a f = .error x ↔
      x = .ambiguous a.name f.name f.baseType ∧
        ¬ OneOtherSide (a.associationsTo f.baseType Association.isHas).length
          (inverses s a f (· = .belongsTo)).length := by
  unfold foreignName OneOtherSide
  generalize a.associationsTo f.baseType Association.isHas = there at hf
  generalize inverses s a f (· = .belongsTo) = back
  -- none, one or several on each side
  rcases there with _ | ⟨g, _ | ⟨g', rest⟩⟩
  · exact absurd rfl hf
  · rcases back with _ | ⟨i, _ | ⟨i', rest⟩⟩ <;> simp [@eq_comm _ x]
  · cases back <;> simp [@eq_comm _ x]

/-- Sharing a join table is ambiguous where the rule is broken, and never for
an entity that relates to itself. -/
theorem sharesJoinTable_eq_error
    (hf : (a.associationsTo f.baseType (· = .belongsToMany)).length ≠ 0) :
    sharesJoinTable s a f = .error x ↔
      x = .ambiguous a.name f.name f.baseType ∧ f.baseType ≠ a.name ∧
        ¬ OneOtherSide
          (a.associationsTo f.baseType (· = .belongsToMany)).length
          (inverses s a f (· = .belongsToMany)).length := by
  unfold sharesJoinTable OneOtherSide
  by_cases hself : f.baseType = a.name
  · simp [hself]
  · generalize (a.associationsTo f.baseType (· = .belongsToMany)).length
      = there at hf
    generalize (inverses s a f (· = .belongsToMany)).length = back
    simp only [hself, if_false]
    by_cases hshared : there = 1 ∧ back ≤ 1
    · have hrule : back = 0 ∨ back = 1 := by omega
      simp [hshared.1, hshared.2, hrule]
    · by_cases hback : back = 0
      · have hthere : there ≠ 1 := fun h => hshared ⟨h, by omega⟩
        simp [hback, hthere]
      · have hrule : ¬ (there = 1 ∧ back = 1) := by omega
        simp [hshared, hback, hf, hself, hrule, @eq_comm _ x]

end Fields

/-! ## §3. Where a run stops. -/

/-- The error is not about other sides. -/
def Clear (x : StorageError) : Prop :=
  ∀ e f t, x ≠ .ambiguous e f t

/-- Storing goes well up to the association `a` and fails there. -/
def StopsAt (s : Schema) (a : Entity × Field × Association)
    (x : StorageError) : Prop :=
  ∃ done rest d rels, s.associations = done ++ a :: rest ∧
    linkAll s done = .ok (d, rels) ∧ link s d a.1 a.2.1 a.2.2 = .error x

section Runs

variable {s : Schema} {d : Draft} {e : Entity} {f : Field}
  {kind : Association} {x : StorageError}

theorem layOut_failsClear : FailsAs Clear (layOut s) := by
  refine layOut_failsAs (fun _ _ => nofun) (fun _ => nofun) ?_
  intro e _ f _
  unfold fieldColumn
  split
  · exact .ofError nofun
  · split
    · exact .ofError nofun
    · exact .ofOk rfl

/-- Why storing the field `f` of `e` fails: for another reason, or because
there are several other sides. -/
inductive LinkFailure (s : Schema) (e : Entity) (f : Field) :
    Association → StorageError → Prop where
  | clear {kind : Association} {x : StorageError} (h : Clear x) :
      LinkFailure s e f kind x
  | name {kind : Association} {x : StorageError} (hkind : kind.isHas = true)
      (h : foreignName s e f = .error x) : LinkFailure s e f kind x
  | share {x : StorageError} (h : sharesJoinTable s e f = .error x) :
      LinkFailure s e f .belongsToMany x

theorem linkHas_failsAs (hkind : kind.isHas = true)
    (hkey : ∀ n, FailsAs (LinkFailure s e f kind) (requireKey d e f n))
    (htable : ∀ n, FailsAs (LinkFailure s e f kind) (requireTable d e f n)) :
    FailsAs (LinkFailure s e f kind) (linkHas s d e f) := by
  have hname : FailsAs (LinkFailure s e f kind) (foreignName s e f) :=
    fun x hx => .name hkind hx
  unfold linkHas
  apply (hkey _).bind
  intro key _
  apply hname.bind
  intro name _
  apply (htable _).bind
  intro t _
  have hadd : FailsAs (LinkFailure s e f kind)
      (t.addColumn (foreignKey name key.2 true key.1)) :=
    addColumn_failsAs (fun _ _ => .clear nofun) t _
  exact hadd.bind fun _ _ => .ofOk rfl

theorem link_failsAs :
    FailsAs (LinkFailure s e f kind) (link s d e f kind) := by
  have hkey : ∀ n, FailsAs (LinkFailure s e f kind) (requireKey d e f n) := by
    intro n
    unfold requireKey
    split
    · exact .ofOk rfl
    · exact .ofError (.clear nofun)
  have htable : ∀ n,
      FailsAs (LinkFailure s e f kind) (requireTable d e f n) := by
    intro n
    unfold requireTable
    split
    · exact .ofOk rfl
    · exact .ofError (.clear nofun)
  have hadd : ∀ (t : Table) new,
      FailsAs (LinkFailure s e f kind) (t.addColumn new) :=
    addColumn_failsAs fun _ _ => .clear nofun
  cases kind with
  | hasOne => exact linkHas_failsAs rfl hkey htable
  | hasMany => exact linkHas_failsAs rfl hkey htable
  | belongsTo =>
      unfold link linkBelongsTo
      apply (hkey _).bind
      intro key _
      apply (htable _).bind
      intro t _
      exact (hadd t _).bind fun _ _ => .ofOk rfl
  | belongsToMany =>
      have hshare : FailsAs (LinkFailure s e f .belongsToMany)
          (sharesJoinTable s e f) := fun x hx => .share hx
      have hjoin : ∀ n shared, FailsAs (LinkFailure s e f .belongsToMany)
          (joinTable d n shared) :=
        fun n shared => joinTable_failsAs (fun _ => .clear nofun) d n shared
      unfold link linkBelongsToMany
      apply (hkey _).bind
      intro key _
      apply (hkey _).bind
      intro target _
      apply hshare.bind
      intro shared _
      apply (hjoin _ shared).bind
      intro t _
      apply (hadd t _).bind
      intro t₁ _
      exact (hadd t₁ _).bind fun _ _ => .ofOk rfl

/-- A schema is refused when its tables are laid out, or at an
association. -/
theorem stopsAt_of_build (h : build s = .error x) :
    layOut s = .error x ∨ ∃ a, StopsAt s a x := by
  unfold build at h
  rw [bind_eq_error] at h
  rcases h with hlay | ⟨d₀, hlay, h⟩
  · exact .inl hlay
  · right
    rw [bind_eq_error] at h
    rcases h with h | ⟨st, -, h⟩
    · obtain ⟨done, a, rest, st, has, hrun, hstep⟩ := foldlM_eq_error h
      refine ⟨a, done, rest, st.1, st.2, has, ?_, ?_⟩
      · unfold linkAll
        rw [bind_of_ok hlay]
        exact hrun
      · unfold linkStep at hstep
        rw [bind_eq_error] at hstep
        rcases hstep with hlink | ⟨y, -, hstep⟩
        · exact hlink
        · cases hstep
    · cases h

end Runs

/-! ## §4. Pairs of entities. -/

/-- The entities `a` and `b` break the rule for fields of this kind. -/
def BreaksRule (a b : Entity) (kind : Association) : Prop :=
  kind.isHas = true ∧ ¬ KeysPair a b ∨
    kind = .belongsToMany ∧ a ≠ b ∧ ¬ JoinTablesPair a b

section Pairs

variable {s : Schema} {d : Draft} {a b : Entity} {f : Field}
  {kind : Association} {l : Link} {entity field target : String}

/-- A field sees the rule for its entity and its target. -/
theorem keysPair_iff (hkeyed : s.EntitiesKeyed) (hb : b ∈ s.toList)
    (hf : f.baseType = b.name) :
    KeysPair a b ↔
      OneOtherSide (a.associationsTo f.baseType Association.isHas).length
        (inverses s a f (· = .belongsTo)).length := by
  unfold KeysPair
  rw [inverses_eq hkeyed hb hf, hf]

theorem joinTablesPair_iff (hkeyed : s.EntitiesKeyed) (hb : b ∈ s.toList)
    (hf : f.baseType = b.name) :
    JoinTablesPair a b ↔
      OneOtherSide
        (a.associationsTo f.baseType (· = .belongsToMany)).length
        (inverses s a f (· = .belongsToMany)).length := by
  unfold JoinTablesPair
  rw [inverses_eq hkeyed hb hf, hf]

/-- Two entities break the rule with a field of the first. -/
theorem exists_field_of_broken {test : Association → Bool} {back : Nat}
    (h : ¬ OneOtherSide (a.associationsTo target test).length back) :
    ∃ f kind, (f, kind) ∈ a.associations ∧ f.baseType = target ∧
      test kind = true := by
  cases hfields : a.associationsTo target test with
  | nil =>
      rw [hfields] at h
      exact absurd (.inl rfl) h
  | cons f rest =>
      have hmem : f ∈ a.associationsTo target test := by
        rw [hfields]
        exact List.mem_cons_self
      obtain ⟨kind, hf, hbase, htest⟩ := Entity.mem_associationsTo.mp hmem
      exact ⟨f, kind, hf, hbase, htest⟩

/-- A field that is stored keeps to the rule. -/
theorem Stored.not_breaksRule (hkeyed : s.EntitiesKeyed)
    (ha : (a, f, kind) ∈ s.associations) (hb : b ∈ s.toList)
    (hbase : f.baseType = b.name) (h : Stored s d a f kind l) :
    ¬ BreaksRule a b kind := by
  obtain ⟨hmem, hf⟩ := Schema.mem_associations.mp ha
  intro hbreaks
  rcases hbreaks with ⟨hkind, hbroken⟩ | ⟨rfl, hab, hbroken⟩
  · cases h with
    | belongsTo => cases hkind
    | belongsToMany => cases hkind
    | has _ _ hname =>
        rw [keysPair_iff hkeyed hb hbase] at hbroken
        rw [(foreignName_eq_error (length_siblings_ne_zero hf hkind)).mpr
          ⟨rfl, hbroken⟩] at hname
        cases hname
  · cases h with
    | has hhas => cases hhas
    | belongsToMany _ _ hshared =>
        rw [joinTablesPair_iff hkeyed hb hbase] at hbroken
        have hapart : f.baseType ≠ a.name := fun hself =>
          hab (hkeyed.eq_of_name hmem hb (hself.symm.trans hbase))
        rw [(sharesJoinTable_eq_error (length_siblings_ne_zero hf rfl)).mpr
          ⟨rfl, hapart, hbroken⟩] at hshared
        cases hshared

/-- In a schema that is stored, no two entities break the rule. -/
theorem not_breaksRule_of_build {m : Model} (hkeyed : s.EntitiesKeyed)
    (h : build s = .ok m) (ha : a ∈ s.toList) (hb : b ∈ s.toList)
    (hf : (f, kind) ∈ a.associations) (hbase : f.baseType = b.name) :
    ¬ BreaksRule a b kind := by
  obtain ⟨d, rels, hrun, -⟩ := build_eq_ok h
  have hmem : (a, f, kind) ∈ s.associations :=
    Schema.mem_associations.mpr ⟨ha, hf⟩
  obtain ⟨r, -, hr⟩ := exists_right_of_forall₂
    (linkAll_running hrun).records _ hmem
  exact hr.stored.not_breaksRule hkeyed hmem hb hbase

/-- A field at which a run stops as ambiguous breaks the rule. -/
theorem StopsAt.breaksRule (hkeyed : s.EntitiesKeyed)
    (h : StopsAt s (a, f, kind) (.ambiguous entity field target)) :
    entity = a.name ∧ field = f.name ∧ target = f.baseType ∧
      (kind = .belongsToMany → target ≠ entity) ∧
      ∃ b ∈ s.toList, b.name = target ∧ BreaksRule a b kind := by
  obtain ⟨done, rest, d, rels, has, -, hlink⟩ := h
  obtain ⟨ha, hf⟩ := Schema.mem_associations.mp (mem_of_split has).2
  cases link_failsAs _ hlink with
  | clear hclear => exact absurd rfl (hclear entity field target)
  | name hkind hname =>
      obtain ⟨hx, hbroken⟩ :=
        (foreignName_eq_error (length_siblings_ne_zero hf hkind)).mp hname
      cases hx
      have hback : inverses s a f (· = .belongsTo) ≠ [] := by
        intro hnone
        rw [hnone] at hbroken
        exact hbroken (.inr (.inl rfl))
      obtain ⟨b, hb, hbase⟩ := exists_target hkeyed hback
      rw [← keysPair_iff hkeyed hb hbase.symm] at hbroken
      refine ⟨rfl, rfl, rfl, ?_, b, hb, hbase, .inl ⟨hkind, hbroken⟩⟩
      rintro rfl
      cases hkind
  | share hshare =>
      obtain ⟨hx, hapart, hbroken⟩ :=
        (sharesJoinTable_eq_error (length_siblings_ne_zero hf rfl)).mp hshare
      cases hx
      have hback : inverses s a f (· = .belongsToMany) ≠ [] := by
        intro hnone
        rw [hnone] at hbroken
        exact hbroken (.inr (.inl rfl))
      obtain ⟨b, hb, hbase⟩ := exists_target hkeyed hback
      rw [← joinTablesPair_iff hkeyed hb hbase.symm] at hbroken
      have hab : a ≠ b := by
        rintro rfl
        exact hapart hbase.symm
      exact ⟨rfl, rfl, rfl, fun _ => hapart, b, hb, hbase,
        .inr ⟨rfl, hab, hbroken⟩⟩

/-- A schema that can be stored keeps to the rule for all pairs of entities.
One that is refused as ambiguous is refused at a field that breaks it, which
is never a `belongsToMany` of an entity to itself. -/
theorem other_sides (hkeyed : s.EntitiesKeyed) :
    (∀ m, build s = .ok m → ∀ a ∈ s.toList, ∀ b ∈ s.toList,
      KeysPair a b ∧ (a ≠ b → JoinTablesPair a b)) ∧
    (∀ entity field target,
      build s = .error (.ambiguous entity field target) →
        ∃ a f kind,
          StopsAt s (a, f, kind) (.ambiguous entity field target)) ∧
    ∀ a f kind entity field target,
      StopsAt s (a, f, kind) (.ambiguous entity field target) →
        entity = a.name ∧ field = f.name ∧ target = f.baseType ∧
          (kind = .belongsToMany → target ≠ entity) ∧
          ∃ b ∈ s.toList, b.name = target ∧ BreaksRule a b kind := by
  refine ⟨?_, ?_, fun a f kind entity field target h =>
    h.breaksRule hkeyed⟩
  · intro m h a ha b hb
    constructor
    · by_contra hbroken
      obtain ⟨f, kind, hf, hbase, hkind⟩ := exists_field_of_broken hbroken
      exact not_breaksRule_of_build hkeyed h ha hb hf hbase
        (.inl ⟨hkind, hbroken⟩)
    · intro hab
      by_contra hbroken
      obtain ⟨f, kind, hf, hbase, hkind⟩ := exists_field_of_broken hbroken
      rw [decide_eq_true_eq] at hkind
      exact not_breaksRule_of_build hkeyed h ha hb hf hbase
        (.inr ⟨hkind, hab, hbroken⟩)
  · intro entity field target h
    rcases stopsAt_of_build h with hlay | ⟨a, ha⟩
    · exact absurd rfl (layOut_failsClear _ hlay entity field target)
    · exact ⟨a.1, a.2.1, a.2.2, ha⟩

end Pairs

/-! ## §5. A crowded shelf. -/

/-- Authors with two lists of books, which name one author each. -/
def twiceListed : Document where
  definitions :=
    [ objectType "Author" "Authors"
        [ associationTo "Book" "books" .hasMany,
          associationTo "Book" "reviewed" .hasMany ],
      objectType "Book" "Books"
        [associationTo "Author" "author" .belongsTo] ]

/-- Books with two lists of tags, which list the books once. -/
def twiceTagged : Document where
  definitions :=
    [ objectType "Tag" "Tags"
        [associationTo "Book" "books" .belongsToMany],
      objectType "Book" "Books"
        [ associationTo "Tag" "tags" .belongsToMany,
          associationTo "Tag" "labels" .belongsToMany ] ]

/-- The documents make a schema that is refused at a field that breaks the
rule. -/
def RefusedAsAmbiguous (docs : List Document) (entity field target : String) :
    Prop :=
  ∃ s, (elaborate {} docs).result = .ok s ∧ s.EntitiesKeyed ∧
    build s = .error (.ambiguous entity field target) ∧
    ∃ a f kind, StopsAt s (a, f, kind) (.ambiguous entity field target) ∧
      entity = a.name ∧ field = f.name ∧ target = f.baseType ∧
        (kind = .belongsToMany → target ≠ entity) ∧
        ∃ b ∈ s.toList, b.name = target ∧ BreaksRule a b kind

/-- The shelf can be stored; with a second list at one of two entities it
cannot. -/
theorem other_sides_bookshelf :
    (∃ s m, (elaborate {} [bookshelf]).result = .ok s ∧ s.EntitiesKeyed ∧
      build s = .ok m ∧ ∀ a ∈ s.toList, ∀ b ∈ s.toList,
        KeysPair a b ∧ (a ≠ b → JoinTablesPair a b)) ∧
    RefusedAsAmbiguous [twiceListed] "Author" "books" "Book" ∧
    RefusedAsAmbiguous [twiceTagged] "Tag" "books" "Book" := by
  have hkeyed : ∀ {docs s}, (elaborate {} docs).result = .ok s →
      s.EntitiesKeyed := fun hs => (wellKeyed_of_elaborate hs).entitiesKeyed
  have hrefused : ∀ docs entity field target,
      (failureOf docs).map Prod.snd
        = some (.ambiguous entity field target) →
      RefusedAsAmbiguous docs entity field target := by
    intro docs entity field target h
    obtain ⟨⟨s, x⟩, hfailure, rfl⟩ := Option.map_eq_some_iff.mp h
    obtain ⟨hs, hx⟩ := failureOf_eq_some hfailure
    obtain ⟨-, hstops, hrule⟩ := other_sides (hkeyed hs)
    obtain ⟨a, f, kind, hstop⟩ := hstops _ _ _ hx
    exact ⟨s, hs, hkeyed hs, hx, a, f, kind, hstop,
      hrule _ _ _ _ _ _ hstop⟩
  refine ⟨?_, ?_, ?_⟩
  · obtain ⟨s, m, hs, hm⟩ := bookshelf_model
    exact ⟨s, m, hs, hkeyed hs, hm, (other_sides (hkeyed hs)).1 m hm⟩
  · exact hrefused _ _ _ _ (by decide +kernel)
  · exact hrefused _ _ _ _ (by decide +kernel)

end SchemaTables.Storage
