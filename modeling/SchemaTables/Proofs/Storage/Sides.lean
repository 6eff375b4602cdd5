/-
  SchemaTables.Proofs.Storage.Sides
  ─────────────────────────────────
  **THE TWO SIDES OF AN ASSOCIATION AGREE.**

  Where one field of each of two entities leads to the other, the two are the
  sides of one association, and are stored by the same columns:

      A.f : hasOne, hasMany B    B.g : belongsTo A     one foreign key of B
      A.f : belongsToMany B      B.g : belongsToMany A   one join table

  Each side is stored by itself, and the first of them long before the
  second.  Each works out the names from its own fields and from those that
  lead back, and looks up the keys of the two entities; `Stored` says what it
  arrives at, and what it has arrived at stays so.
-/
import SchemaTables.Proofs.Elaboration.Keyed
import SchemaTables.Proofs.Storage.Build

namespace SchemaTables.Storage

open Elaboration

/-! ## §1. Sides. -/

/-- The relations of an entity with a target, of the kinds that pass the
test. -/
def Model.relationsTo (m : Model) (entity target : String)
    (test : Association → Bool) : List Relation :=
  m.relations.filter fun r =>
    r.entity = entity && (r.target = target && test r.kind)

/-- The one relation of `a` with `b` and the one of `b` with `a` lie in one
foreign key of `b`. -/
def Model.OneForeignKey (m : Model) (a b : Entity) (f g : Field) : Prop :=
  ∃ r r' key column,
    m.relationsTo a.name b.name Association.isHas = [r] ∧
      m.relationsTo b.name a.name (· = .belongsTo) = [r'] ∧
      r.field = f.name ∧ r'.field = g.name ∧
      r.link = .oneToMany key column ∧ r'.link = .manyToOne column key

/-- The one relation of `a` with `b` and the one of `b` with `a` lie in one
join table, where what is the near column for one is the far one for the
other. -/
def Model.OneJoinTable (m : Model) (a b : Entity) (f g : Field) : Prop :=
  ∃ r r' table one other,
    m.relationsTo a.name b.name (· = .belongsToMany) = [r] ∧
      m.relationsTo b.name a.name (· = .belongsToMany) = [r'] ∧
      r.field = f.name ∧ r'.field = g.name ∧
      r.link = .manyToMany table one other ∧
      r'.link = .manyToMany table other one

/-! ## §2. What each side works out. -/

section Names

variable {s : Schema} {a b : Entity} {f g : Field}

/-- The associations that lead back are those of the target. -/
theorem inverses_eq (hkeyed : s.EntitiesKeyed) (hb : b ∈ s.toList)
    (hf : f.baseType = b.name) (test : Association → Bool) :
    inverses s a f test = b.associationsTo a.name test := by
  unfold inverses
  rw [hf, hkeyed.get?_name hb]

theorem foreignName_of_sides (hkeyed : s.EntitiesKeyed) (hb : b ∈ s.toList)
    (hf : f.baseType = b.name)
    (hone : a.associationsTo b.name Association.isHas = [f])
    (hback : b.associationsTo a.name (· = .belongsTo) = [g]) :
    foreignName s a f = .ok g.name := by
  unfold foreignName
  rw [inverses_eq hkeyed hb hf, hf, hone, hback]

theorem sharesJoinTable_of_sides (hkeyed : s.EntitiesKeyed)
    (hb : b ∈ s.toList) (hf : f.baseType = b.name) (hne : b.name ≠ a.name)
    (hone : a.associationsTo b.name (· = .belongsToMany) = [f])
    (hback : b.associationsTo a.name (· = .belongsToMany) = [g]) :
    sharesJoinTable s a f = .ok true := by
  unfold sharesJoinTable
  rw [inverses_eq hkeyed hb hf, hf, hone, hback]
  simp [hne]

end Names

/-! ## §3. What each side arrives at. -/

section Links

variable {s : Schema} {d : Draft} {a b : Entity} {f g : Field}
  {kind : Association} {l l' : Link}

/-- A `hasOne` or `hasMany` that takes the name of a `belongsTo` leading back
takes its column and refers to its key. -/
theorem Stored.sameForeignKey (hkind : kind.isHas = true)
    (hf : f.baseType = b.name) (hg : g.baseType = a.name)
    (hname : foreignName s a f = .ok g.name) (h : Stored s d a f kind l)
    (h' : Stored s d b g .belongsTo l') :
    ∃ key column, l = .oneToMany key column ∧ l' = .manyToOne column key := by
  cases h with
  | belongsTo => cases hkind
  | belongsToMany => cases hkind
  | has _ hkey hforeign htable _ =>
      cases h' with
      | has hhas => cases hhas
      | belongsTo hkey' htable' _ =>
          rw [hname] at hforeign
          cases hforeign
          -- both look up the table of `b` and the key of `a`
          rw [hf, htable'] at htable
          cases htable
          rw [hg] at hkey'
          rw [(hkey.unique hkey').1]
          exact ⟨_, _, rfl, rfl⟩

/-- Two `belongsToMany` that share the join table of their two entities name
its columns alike. -/
theorem Stored.sameJoinTable (hne : b.name ≠ a.name)
    (hf : f.baseType = b.name) (hg : g.baseType = a.name)
    (hshares : sharesJoinTable s a f = .ok true)
    (hshares' : sharesJoinTable s b g = .ok true)
    (h : Stored s d a f .belongsToMany l)
    (h' : Stored s d b g .belongsToMany l') :
    ∃ table one other, l = .manyToMany table one other ∧
      l' = .manyToMany table other one := by
  cases h with
  | has hhas => cases hhas
  | @belongsToMany key target _ _ _ n _ hkey htarget hshared hn _ _ _ _ =>
      cases h' with
      | has hhas => cases hhas
      | @belongsToMany key' target' _ _ _ n' _ hkey' htarget' hshared' hn' _ _
          _ _ =>
          rw [hshares] at hshared
          cases hshared
          rw [hshares'] at hshared'
          cases hshared'
          rw [hf] at htarget
          rw [hg] at htarget'
          have htable : n = n' := by
            rw [hn, hn', ← (htarget.unique hkey').1, ← (hkey.unique htarget').1]
            exact joinTableName_comm key.table target.table
          -- neither relates to itself, so each far name is the other's own
          have hfar : farName a f = b.name := by
            unfold farName
            rw [hf, if_neg hne]
          have hfar' : farName b g = a.name := by
            unfold farName
            rw [hg, if_neg hne.symm]
          rw [hfar, hfar', ← htable]
          exact ⟨_, _, _, rfl, rfl⟩

end Links

/-! ## §4. The relations of two entities. -/

section Relations

variable {s : Schema} {d : Draft} {rels : List Relation} {m : Model}
  {a b : Entity} {f g : Field} {test : Association → Bool}

/-- The one association of a kind has the one relation of that kind. -/
theorem Running.relationsTo_eq (hkeyed : s.EntitiesKeyed)
    (h : Running s s.associations d rels) (hm : m.relations = rels)
    (ha : a ∈ s.toList) (hone : a.associationsTo b.name test = [f]) :
    ∃ kind r, m.relationsTo a.name b.name test = [r] ∧ test kind = true ∧
      f.baseType = b.name ∧ r.field = f.name ∧
      Stored s d a f kind r.link := by
  -- relations and associations are chosen alike
  have hchosen := List.rel_filter
    (p := fun x => x.1.name = a.name && (x.2.1.baseType = b.name && test x.2.2))
    (q := fun r => r.entity = a.name && (r.target = b.name && test r.kind))
    (R := Records s d) (fun {x r} hr => by rw [hr.eq]; rfl) h.records
  rw [hkeyed.filter_associations ha
    (fun x => x.1.baseType = b.name && test x.2)] at hchosen
  unfold Entity.associationsTo at hone
  obtain ⟨⟨f', kind⟩, hpair, rfl⟩ := List.map_eq_singleton_iff.mp hone
  rw [hpair] at hchosen
  have hmem : (f', kind) ∈ a.associations.filter
      (fun x => x.1.baseType = b.name && test x.2) := by
    rw [hpair]
    exact List.mem_cons_self
  rw [List.mem_filter, Bool.and_eq_true, decide_eq_true_eq] at hmem
  obtain ⟨-, htarget, htest⟩ := hmem
  rw [List.map_singleton, List.forall₂_cons_left_iff] at hchosen
  obtain ⟨r, rest, hr, hnil, hrels⟩ := hchosen
  rw [List.forall₂_nil_left_iff.mp hnil] at hrels
  refine ⟨kind, r, ?_, htest, htarget, ?_, hr.stored⟩
  · unfold Model.relationsTo
    rw [hm]
    exact hrels
  · rw [hr.eq]
    rfl

/-- The two sides of an association agree on how it is stored: on the foreign
key if it belongs to one of them, on the join table if it belongs to both. -/
theorem sides_agree {s : Schema} {m : Model} (hkeyed : s.EntitiesKeyed)
    (h : build s = .ok m) :
    ∀ a ∈ s.toList, ∀ b ∈ s.toList,
      (∀ f g, a.associationsTo b.name Association.isHas = [f] →
        b.associationsTo a.name (· = .belongsTo) = [g] →
        m.OneForeignKey a b f g) ∧
      (a ≠ b → ∀ f g,
        a.associationsTo b.name (· = .belongsToMany) = [f] →
        b.associationsTo a.name (· = .belongsToMany) = [g] →
        m.OneJoinTable a b f g) := by
  obtain ⟨d, rels, hrun, hmodel⟩ := build_eq_ok h
  have hrunning := linkAll_running hrun
  have hm : m.relations = rels := by rw [hmodel]
  intro a ha b hb
  constructor
  · intro f g hone hback
    obtain ⟨kind, r, hrels, hkind, hf, hfield, hstored⟩ :=
      hrunning.relationsTo_eq hkeyed hm ha hone
    obtain ⟨kind', r', hrels', hkind', hg, hfield', hstored'⟩ :=
      hrunning.relationsTo_eq hkeyed hm hb hback
    rw [decide_eq_true_eq] at hkind'
    subst hkind'
    have hname := foreignName_of_sides hkeyed hb hf hone hback
    obtain ⟨key, column, hlink, hlink'⟩ :=
      hstored.sameForeignKey hkind hf hg hname hstored'
    exact ⟨r, r', key, column, hrels, hrels', hfield, hfield', hlink, hlink'⟩
  · intro hab f g hone hback
    have hne : b.name ≠ a.name := fun heq =>
      hab (hkeyed.eq_of_name ha hb heq.symm)
    obtain ⟨kind, r, hrels, hkind, hf, hfield, hstored⟩ :=
      hrunning.relationsTo_eq hkeyed hm ha hone
    obtain ⟨kind', r', hrels', hkind', hg, hfield', hstored'⟩ :=
      hrunning.relationsTo_eq hkeyed hm hb hback
    rw [decide_eq_true_eq] at hkind hkind'
    subst hkind hkind'
    have hshares := sharesJoinTable_of_sides hkeyed hb hf hne hone hback
    have hshares' :=
      sharesJoinTable_of_sides hkeyed ha hg hne.symm hback hone
    obtain ⟨table, one, other, hlink, hlink'⟩ :=
      hstored.sameJoinTable hne hf hg hshares hshares' hstored'
    exact ⟨r, r', table, one, other, hrels, hrels', hfield, hfield', hlink,
      hlink'⟩

end Relations

/-- Authors have books, and books have tags; both lead back. -/
theorem sides_agree_bookshelf :
    ∃ s m, (elaborate {} [bookshelf]).result = .ok s ∧ build s = .ok m ∧
      (∃ a ∈ s.toList, ∃ b ∈ s.toList, ∃ f g,
        a.name = "Author" ∧ f.name = "books" ∧ g.name = "author" ∧
        m.OneForeignKey a b f g) ∧
      ∃ a ∈ s.toList, ∃ b ∈ s.toList, ∃ f g,
        a.name = "Book" ∧ f.name = "tags" ∧ g.name = "books" ∧
        m.OneJoinTable a b f g := by
  obtain ⟨s, m, hs, hm⟩ := bookshelf_model
  have hagree := sides_agree (wellKeyed_of_elaborate hs).entitiesKeyed hm
  have hsides : ∀ s ∈ (elaborate {} [bookshelf]).result.toOption,
      (∃ a ∈ s.toList, ∃ b ∈ s.toList, ∃ f ∈ a.fields.values,
        ∃ g ∈ b.fields.values,
        a.name = "Author" ∧ f.name = "books" ∧ g.name = "author" ∧
        a.associationsTo b.name Association.isHas = [f] ∧
        b.associationsTo a.name (· = .belongsTo) = [g]) ∧
      ∃ a ∈ s.toList, ∃ b ∈ s.toList, ∃ f ∈ a.fields.values,
        ∃ g ∈ b.fields.values,
        a.name = "Book" ∧ f.name = "tags" ∧ g.name = "books" ∧ a ≠ b ∧
        a.associationsTo b.name (· = .belongsToMany) = [f] ∧
        b.associationsTo a.name (· = .belongsToMany) = [g] := by
    decide +kernel
  obtain ⟨⟨a, ha, b, hb, f, -, g, -, hname, hf, hg, hone, hback⟩,
    ⟨a', ha', b', hb', f', -, g', -, hname', hf', hg', hab, hone', hback'⟩⟩ :=
    hsides s (toOption_eq_some.mpr hs)
  exact ⟨s, m, hs, hm,
    ⟨a, ha, b, hb, f, g, hname, hf, hg,
      (hagree a ha b hb).1 f g hone hback⟩,
    ⟨a', ha', b', hb', f', g', hname', hf', hg',
      (hagree a' ha' b' hb').2 hab f' g' hone' hback'⟩⟩

end SchemaTables.Storage
