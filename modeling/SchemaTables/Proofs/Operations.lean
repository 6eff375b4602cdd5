/-
  SchemaTables.Proofs.Operations
  ──────────────────────────────
  **WHEN THE QUERIES OF A SCHEMA HAVE DISTINCT NAMES.**

  Every entity is read by two queries, named after it and after its plural in
  lower camel case.  Their names may fail to be distinct in two ways.

      reads alike      both queries of one entity have one name
      shares a query   a query of one entity is called like one of another

  A plural that is made is another word than the name, since an `s` is put
  behind it otherwise.  But the two are compared as they are written: the
  plural of `Dice` is `dice`, and both of its queries are called `dice`.  An
  entity that declares no plural reads alike just if its name is of this kind
  (`Recased`), and in upper camel case these names are those of a list.

  Names of different entities are not compared at all: the plural of `Book` is
  `Books`, which may be another type.  Main result: `queryNames_nodup_iff`.
-/
import Mathlib.Data.List.Nodup
import Mathlib.Data.List.Pairwise
import SchemaTables.Proofs.Elaboration.Typing
import SchemaTables.Proofs.Text.Recased
import SchemaTables.Schema.Operations

namespace SchemaTables

open Sdl Elaboration Text

/-! ## §1. The names. -/

namespace Entity

/-- The names of the queries that read an entity. -/
def queryNames (e : Entity) : List String :=
  [(OperationNames.ofEntity e).get, (OperationNames.ofEntity e).list]

/-- Both queries of the entity have one name. -/
def ReadsAlike (e : Entity) : Prop :=
  (OperationNames.ofEntity e).list = (OperationNames.ofEntity e).get

instance (e : Entity) : Decidable e.ReadsAlike :=
  inferInstanceAs (Decidable (_ = _))

/-- A query of the one entity has the name of a query of the other. -/
def SharesQuery (e e' : Entity) : Prop :=
  ∃ query ∈ e.queryNames, query ∈ e'.queryNames

/-- The name is in upper camel case, and the plural is so but for its first
letter. -/
structure InUpperCamel (e : Entity) : Prop where
  name : UpperCamel e.name
  plural : UpperCamel (capital e.pluralName)

instance (e : Entity) : Decidable e.InUpperCamel :=
  decidable_of_iff (UpperCamel e.name ∧ UpperCamel (capital e.pluralName))
    ⟨fun h => ⟨h.1, h.2⟩, fun h => ⟨h.name, h.plural⟩⟩

end Entity

/-- The names of all queries, those of an entity one after the other. -/
def Schema.queryNames (s : Schema) : List String :=
  s.toList.flatMap Entity.queryNames

theorem Entity.queryNames_nodup {e : Entity} :
    e.queryNames.Nodup ↔ ¬ e.ReadsAlike := by
  unfold Entity.queryNames Entity.ReadsAlike
  simp [eq_comm]

/-- The queries have distinct names just if no entity reads alike and no two
entities share a query. -/
theorem Schema.queryNames_nodup {s : Schema} (hkeyed : s.EntitiesKeyed) :
    s.queryNames.Nodup ↔ (∀ e ∈ s.toList, ¬ e.ReadsAlike) ∧
      ∀ e ∈ s.toList, ∀ e' ∈ s.toList, e.name ≠ e'.name →
        ¬ e.SharesQuery e' := by
  unfold Schema.queryNames
  rw [List.nodup_flatMap]
  refine and_congr (forall₂_congr fun e _ => Entity.queryNames_nodup) ?_
  constructor
  · intro hpairs e he e' he' hne hshared
    obtain ⟨query, hown, hother⟩ := hshared
    have hsymm : Std.Symm (Function.onFun List.Disjoint Entity.queryNames) :=
      ⟨fun _ _ h _ hown hother => h hother hown⟩
    exact hpairs.forall he he' (fun heq => hne (heq ▸ rfl)) hown hother
  · intro happart
    apply hkeyed.names_nodup.of_map.pairwise_of_forall_ne
    intro e he e' he' hne query hown hother
    exact happart e he e' he' (fun hname => hne (hkeyed.eq_of_name he he' hname))
      ⟨query, hown, hother⟩

/-! ## §2. Declared plurals. -/

/-- The object type of this name declares this plural. -/
def DeclaresPlural (docs : List Document) (name plural : String) : Prop :=
  ∃ o ∈ baseTypes docs, o.value.name = name ∧
    declaredPlural o = .ok (some plural)

/-- The object types of this name declare no plural. -/
def DeclaresNoPlural (docs : List Document) (name : String) : Prop :=
  ∀ o ∈ baseTypes docs, o.value.name = name → declaredPlural o = .ok none

instance (docs : List Document) (name : String) :
    Decidable (DeclaresNoPlural docs name) :=
  inferInstanceAs (Decidable (∀ o ∈ baseTypes docs, _ → _))

section Documents

variable {options : Options} {docs : List Document} {s : Schema}
  {e e' : Entity}

theorem DeclaresNoPlural.not_declares {name plural : String}
    (h : DeclaresNoPlural docs name) : ¬ DeclaresPlural docs name plural := by
  intro hdeclares
  obtain ⟨o, ho, hname, hplural⟩ := hdeclares
  rw [h o ho hname] at hplural
  cases hplural

/-- A plural is declared, or it is made from the name because the type declares
none. -/
theorem pluralName_of_elaborate
    (h : (elaborate options docs).result = .ok s) :
    ∀ e ∈ s.toList, DeclaresPlural docs e.name e.pluralName ∨
      (DeclaresNoPlural docs e.name ∧ e.pluralName = pluralOf e.name) := by
  intro e he
  obtain ⟨ds, hds, hmade, -⟩ := exists_declarations h
  obtain ⟨d, hd, fields, rfl, -⟩ := hmade e he
  obtain ⟨o, ho, hdeclares⟩ :=
    exists_left_of_forall₂ (gather_eq_ok hds) d hd
  cases hplural : d.plural with
  | none =>
      right
      constructor
      · -- there is no other type of the name
        intro o' ho' hname'
        have hsame := List.inj_on_of_nodup_map (names_nodup_of_gather hds)
          ho' ho (hname'.trans hdeclares.name)
        rw [hsame, hdeclares.plural, hplural]
      · show d.plural.getD (pluralOf d.name) = pluralOf d.name
        rw [hplural]
        rfl
  | some plural =>
      left
      refine ⟨o, ho, hdeclares.name.symm, ?_⟩
      show _ = Except.ok (some (d.plural.getD (pluralOf d.name)))
      rw [hdeclares.plural, hplural]
      rfl

/-! ## §3. One entity. -/

/-- The queries of an entity have one name just if its type declares a plural
that is the name in lower camel case, or declares none and English has the
name for its own plural in another case. -/
theorem readsAlike_iff (h : (elaborate options docs).result = .ok s)
    (he : e ∈ s.toList) (hname : IsIdentifier e.name) :
    e.ReadsAlike ↔
      (DeclaresPlural docs e.name e.pluralName ∧
          lowerCamelCase e.pluralName = lowerCamelCase e.name) ∨
        (DeclaresNoPlural docs e.name ∧ Recased e.name) := by
  show lowerCamelCase e.pluralName = lowerCamelCase e.name ↔ _
  rcases pluralName_of_elaborate h e he with hdeclares | ⟨hnone, hmade⟩
  · constructor
    · exact fun hone => .inl ⟨hdeclares, hone⟩
    · rintro (⟨-, hone⟩ | ⟨hnone, -⟩)
      · exact hone
      · exact absurd hdeclares hnone.not_declares
  · rw [← lowerCamelCase_pluralOf hname, hmade]
    constructor
    · exact fun hone => .inr ⟨hnone, hone⟩
    · rintro (⟨-, hone⟩ | ⟨-, hone⟩) <;> exact hone

/-- In upper camel case the names that are read alike without a plural are
known. -/
theorem readsAlike_iff_mem (h : (elaborate options docs).result = .ok s)
    (he : e ∈ s.toList) (hcamel : UpperCamel e.name)
    (hnone : DeclaresNoPlural docs e.name) :
    e.ReadsAlike ↔ e.name ∈ recasedNames := by
  rw [readsAlike_iff h he (isIdentifier_of_upperCamel hcamel),
    recased_iff hcamel]
  constructor
  · rintro (⟨hdeclares, -⟩ | ⟨-, hmem⟩)
    · exact absurd hdeclares hnone.not_declares
    · exact hmem
  · exact fun hmem => .inr ⟨hnone, hmem⟩

/-! ## §4. Two entities. -/

/-- Two entities of different names share a query just if the plural of one is
the name or the plural of the other, in whatever case it begins. -/
theorem sharesQuery_iff (hcamel : e.InUpperCamel) (hcamel' : e'.InUpperCamel)
    (hne : e.name ≠ e'.name) :
    e.SharesQuery e' ↔ capital e.pluralName = e'.name ∨
      e.name = capital e'.pluralName ∨
        capital e.pluralName = capital e'.pluralName := by
  have hown := capital_of_upperCamel hcamel.name
  have hother := capital_of_upperCamel hcamel'.name
  have hname : UpperCamel (capital e.name) := hown.symm ▸ hcamel.name
  have hname' : UpperCamel (capital e'.name) := hother.symm ▸ hcamel'.name
  have hapart : lowerCamelCase e.name ≠ lowerCamelCase e'.name :=
    fun hone => hne (eq_of_lowerCamelCase hcamel.name hcamel'.name hone)
  have hplural := lowerCamelCase_eq_iff hcamel.plural hname'
  have hplural' := lowerCamelCase_eq_iff hname hcamel'.plural
  rw [hother] at hplural
  rw [hown] at hplural'
  rw [← hplural, ← hplural',
    ← lowerCamelCase_eq_iff hcamel.plural hcamel'.plural]
  unfold Entity.SharesQuery Entity.queryNames OperationNames.ofEntity
    OperationNames.of
  simp only [List.mem_cons, List.not_mem_nil, or_false, exists_eq_or_imp,
    exists_eq_left, hapart, false_or]
  exact or_left_comm

/-! ## §5. All queries. -/

/-- The queries of a schema have distinct names just if no entity reads alike
and no two entities share a query.  An entity with a declared plural reads
alike if that is its name in lower camel case, one without if English has its
name for the plural in another case, which in upper camel case is so for the
names of a list and no others.  Of two entities in upper camel case the
plurals decide. -/
theorem queryNames_nodup_iff (h : (elaborate options docs).result = .ok s) :
    (s.queryNames.Nodup ↔ (∀ e ∈ s.toList, ¬ e.ReadsAlike) ∧
        ∀ e ∈ s.toList, ∀ e' ∈ s.toList, e.name ≠ e'.name →
          ¬ e.SharesQuery e') ∧
      (∀ e ∈ s.toList, IsIdentifier e.name →
        (e.ReadsAlike ↔
          (DeclaresPlural docs e.name e.pluralName ∧
              lowerCamelCase e.pluralName = lowerCamelCase e.name) ∨
            (DeclaresNoPlural docs e.name ∧ Recased e.name))) ∧
      (∀ e ∈ s.toList, UpperCamel e.name → DeclaresNoPlural docs e.name →
        (e.ReadsAlike ↔ e.name ∈ recasedNames)) ∧
      ∀ e ∈ s.toList, ∀ e' ∈ s.toList, e.InUpperCamel → e'.InUpperCamel →
        e.name ≠ e'.name →
          (e.SharesQuery e' ↔ capital e.pluralName = e'.name ∨
            e.name = capital e'.pluralName ∨
              capital e.pluralName = capital e'.pluralName) := by
  have hkeyed := (wellKeyed_of_elaborate h).entitiesKeyed
  refine ⟨Schema.queryNames_nodup hkeyed, ?_, ?_, ?_⟩
  · intro e he hname
    exact readsAlike_iff h he hname
  · intro e he hcamel hnone
    exact readsAlike_iff_mem h he hcamel hnone
  · intro e _ e' _ hcamel hcamel' hne
    exact sharesQuery_iff hcamel hcamel' hne

end Documents

/-! ## §6. Three documents. -/

/-- An object type without fields, with its plural if that is declared. -/
def emptyType (name : String) (plural : Option String) : Definition :=
  .object {
    position := .start
    isExtension := false
    name := name
    directives := plural.toList.map fun plural =>
      ⟨"plural", [("name", .string plural)]⟩
    fields := [] }

/-- Authors, and books with a plural of their own. -/
def authorsAndBooks : Document where
  definitions := [emptyType "Author" none, emptyType "Book" (some "Volumes")]

/-- Dice. -/
def diceOnly : Document where
  definitions := [emptyType "Dice" none]

/-- Books, and collections that are named after them. -/
def bookAndBooks : Document where
  definitions := [emptyType "Book" none, emptyType "Books" none]

/-- The names of the queries, and what can be told of each entity, once a
schema is computed. -/
theorem exists_queryNames {options : Options} {docs : List Document}
    {p : Entity → Prop} [DecidablePred p] {names : List String}
    (hrun : (elaborate options docs).result.toOption.map
      (fun s => (s.queryNames, s.toList.all fun e => p e)) =
        some (names, true)) :
    ∃ s, (elaborate options docs).result = .ok s ∧ s.queryNames = names ∧
      ∀ e ∈ s.toList, p e := by
  obtain ⟨s, hs, hpair⟩ := Option.map_eq_some_iff.mp hrun
  rw [toOption_eq_some] at hs
  rw [Prod.mk.injEq, List.all_eq_true] at hpair
  obtain ⟨hnames, hall⟩ := hpair
  exact ⟨s, hs, hnames, fun e he => of_decide_eq_true (hall e he)⟩

/-- The queries of authors and books have distinct names.  English has another
word for authors, who declare no plural, and no plural is the name or the
plural of the other type. -/
theorem queryNames_nodup_iff_authorsAndBooks : ∃ s,
    (elaborate {} [authorsAndBooks]).result = .ok s ∧
      s.queryNames = ["author", "authors", "book", "volumes"] ∧
      (∀ e ∈ s.toList, ¬ e.ReadsAlike) ∧
      DeclaresNoPlural [authorsAndBooks] "Author" ∧
      (∀ e ∈ s.toList, DeclaresNoPlural [authorsAndBooks] e.name →
        ¬ Recased e.name ∧ e.name ∉ recasedNames) ∧
      ∀ e ∈ s.toList, ∀ e' ∈ s.toList, e.name ≠ e'.name →
        capital e.pluralName ≠ e'.name ∧
          capital e.pluralName ≠ capital e'.pluralName := by
  have hrun : (elaborate {} [authorsAndBooks]).result.toOption.map (fun s =>
      (s.queryNames, s.toList.all fun e => e.InUpperCamel)) =
      some (["author", "authors", "book", "volumes"], true) := by
    decide +kernel
  obtain ⟨s, hs, hnames, hcamel⟩ := exists_queryNames hrun
  obtain ⟨hnodup, halike, hlisted, hpairs⟩ := queryNames_nodup_iff hs
  obtain ⟨hown, hother⟩ := hnodup.mp (by rw [hnames]; decide)
  refine ⟨s, hs, hnames, hown, by decide +kernel, ?_, ?_⟩
  · intro e he hnone
    have hname := (hcamel e he).name
    have hnot := hown e he
    constructor
    · intro hrecased
      exact hnot ((halike e he (isIdentifier_of_upperCamel hname)).mpr
        (.inr ⟨hnone, hrecased⟩))
    · rw [hlisted e he hname hnone] at hnot
      exact hnot
  · intro e he e' he' hne
    have hapart := hother e he e' he' hne
    rw [hpairs e he e' he' (hcamel e he) (hcamel e' he') hne, not_or,
      not_or] at hapart
    exact ⟨hapart.1, hapart.2.2⟩

/-- Dice declare no plural, and one die is read by the name of all of them.
Books are listed by the name by which a single `Books` is read. -/
theorem queryNames_not_nodup :
    (∃ s, (elaborate {} [diceOnly]).result = .ok s ∧
      s.queryNames = ["dice", "dice"] ∧ ¬ s.queryNames.Nodup ∧
      ∀ e ∈ s.toList, DeclaresNoPlural [diceOnly] e.name ∧ e.ReadsAlike) ∧
    ∃ s, (elaborate {} [bookAndBooks]).result = .ok s ∧
      s.queryNames = ["book", "books", "books", "bookss"] ∧
      ¬ s.queryNames.Nodup ∧ ∀ e ∈ s.toList, ¬ e.ReadsAlike := by
  constructor
  · have hrun : (elaborate {} [diceOnly]).result.toOption.map (fun s =>
        (s.queryNames, s.toList.all fun e =>
          DeclaresNoPlural [diceOnly] e.name ∧ e.ReadsAlike)) =
        some (["dice", "dice"], true) := by
      decide +kernel
    obtain ⟨s, hs, hnames, halike⟩ := exists_queryNames hrun
    refine ⟨s, hs, hnames, ?_, halike⟩
    rw [hnames]
    decide
  · have hrun : (elaborate {} [bookAndBooks]).result.toOption.map (fun s =>
        (s.queryNames, s.toList.all fun e => ¬ e.ReadsAlike)) =
        some (["book", "books", "books", "bookss"], true) := by
      decide +kernel
    obtain ⟨s, hs, hnames, hown⟩ := exists_queryNames hrun
    refine ⟨s, hs, hnames, ?_, hown⟩
    rw [hnames]
    decide

end SchemaTables
