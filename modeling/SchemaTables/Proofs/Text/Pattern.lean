/-
  SchemaTables.Proofs.Text.Pattern
  ────────────────────────────────
  **WHAT A MATCH CONSISTS OF.**

  A match goes from one place of a text to a later one (`Place.Reaches`), and
  all that it records on the way stands in between.  So the text is what
  stands before the match, the match and what stands after it, and every
  group is made of characters of the text (`search_isMatch`).

  A pattern that is one group up to the end of the text records its whole
  match (`isWholeGroup`), and one that has its only group in front records how
  its match begins (`leads`).
-/
import SchemaTables.Text.Pattern

namespace SchemaTables.Text.Pattern

/-! ## §1. From place to place. -/

/-- From the place `p` one gets to the place `q`, which has passed a part of
the text and has recorded groups of it. -/
structure Place.Reaches (p q : Place) : Prop where
  rest : ∃ passed, p.rest = passed ++ q.rest
  groups : ∀ g ∈ q.groups, g ∈ p.groups ∨ g ⊆ p.rest

section Places

variable {pattern : Pattern} {p q r : Place}

theorem Place.Reaches.refl (p : Place) : p.Reaches p :=
  ⟨⟨[], rfl⟩, fun _ hg => .inl hg⟩

theorem Place.Reaches.trans (h : p.Reaches q) (h' : q.Reaches r) :
    p.Reaches r := by
  obtain ⟨passed, hrest⟩ := h.rest
  obtain ⟨passed', hrest'⟩ := h'.rest
  refine ⟨⟨passed ++ passed', by rw [hrest, hrest', List.append_assoc]⟩, ?_⟩
  intro g hg
  rcases h'.groups g hg with hg | hg
  · exact h.groups g hg
  · right
    intro c hc
    rw [hrest]
    exact List.mem_append_right _ (hg hc)

/-- A match ends at a place behind its beginning. -/
theorem reaches_of_mem_ends (pattern : Pattern) :
    ∀ {p q : Place}, q ∈ pattern.ends p → p.Reaches q := by
  induction pattern with
  | nothing =>
      intro p q h
      cases List.mem_singleton.mp h
      exact .refl p
  | one test =>
      intro p q h
      rw [ends] at h
      split at h
      · cases h
      · next c rest hrest =>
          split at h
          · cases List.mem_singleton.mp h
            exact ⟨⟨[c], hrest⟩, fun _ hg => .inl hg⟩
          · cases h
  | seq a b iha ihb =>
      intro p q h
      obtain ⟨r, hr, hq⟩ := List.mem_flatMap.mp h
      exact (iha hr).trans (ihb hq)
  | alt a b iha ihb =>
      intro p q h
      rcases List.mem_append.mp h with h | h
      · exact iha h
      · exact ihb h
  | opt a ih =>
      intro p q h
      rcases List.mem_append.mp h with h | h
      · exact ih h
      · cases List.mem_singleton.mp h
        exact .refl p
  | group a ih =>
      intro p q h
      obtain ⟨r, hr, rfl⟩ := List.mem_map.mp h
      have hreach := ih hr
      refine ⟨hreach.rest, fun g hg => ?_⟩
      rcases List.mem_append.mp hg with hg | hg
      · exact hreach.groups g hg
      · -- the new group is cut out of the text that lay ahead
        rw [List.mem_singleton.mp hg]
        exact .inr (List.take_subset ..)
  | atStart | atEnd | wordEdge =>
      intro p q h
      rw [ends] at h
      split at h
      · cases List.mem_singleton.mp h
        exact .refl p
      · cases h

/-! ## §2. Patterns that are one group. -/

/-- Has the pattern no groups? -/
def recordsNothing : Pattern → Bool
  | .seq a b => a.recordsNothing && b.recordsNothing
  | .alt a b => a.recordsNothing && b.recordsNothing
  | .opt a => a.recordsNothing
  | .group _ => false
  | _ => true

theorem groups_of_recordsNothing (pattern : Pattern) :
    ∀ {p q : Place}, pattern.recordsNothing = true → q ∈ pattern.ends p →
      q.groups = p.groups := by
  induction pattern with
  | nothing =>
      intro p q _ h
      cases List.mem_singleton.mp h
      rfl
  | one test =>
      intro p q _ h
      rw [ends] at h
      split at h
      · cases h
      · split at h
        · cases List.mem_singleton.mp h
          rfl
        · cases h
  | seq a b iha ihb =>
      intro p q hplain h
      rw [recordsNothing, Bool.and_eq_true] at hplain
      obtain ⟨r, hr, hq⟩ := List.mem_flatMap.mp h
      rw [ihb hplain.2 hq, iha hplain.1 hr]
  | alt a b iha ihb =>
      intro p q hplain h
      rw [recordsNothing, Bool.and_eq_true] at hplain
      rcases List.mem_append.mp h with h | h
      · exact iha hplain.1 h
      · exact ihb hplain.2 h
  | opt a ih =>
      intro p q hplain h
      rcases List.mem_append.mp h with h | h
      · exact ih hplain h
      · cases List.mem_singleton.mp h
        rfl
  | group a => intro p q hplain; cases hplain
  | atStart | atEnd | wordEdge =>
      intro p q _ h
      rw [ends] at h
      split at h
      · cases List.mem_singleton.mp h
        rfl
      · cases h

/-- Is the pattern one group, up to the end of the text? -/
def isWholeGroup : Pattern → Bool
  | .seq (.group a) .atEnd => a.recordsNothing
  | _ => false

/-- Such a pattern records what it has passed. -/
theorem groups_of_isWholeGroup (hwhole : pattern.isWholeGroup = true)
    (h : q ∈ pattern.ends p) :
    q.groups = p.groups ++ [p.rest.take (p.rest.length - q.rest.length)] := by
  unfold isWholeGroup at hwhole
  split at hwhole
  · next a =>
      obtain ⟨r, hr, hq⟩ := List.mem_flatMap.mp h
      obtain ⟨r₀, hr₀, rfl⟩ := List.mem_map.mp hr
      rw [ends] at hq
      split at hq
      · -- the end of the text takes no character, so the group is the match
        cases List.mem_singleton.mp hq
        rw [← groups_of_recordsNothing a hwhole hr₀]
      · cases hq
  · cases hwhole

/-! ## §3. Patterns with a group in front. -/

/-- Does a match of the pattern take a character at least? -/
def takesOne : Pattern → Bool
  | .one _ => true
  | .seq a b => a.takesOne || b.takesOne
  | .alt a b => a.takesOne && b.takesOne
  | .group a => a.takesOne
  | _ => false

theorem length_lt_of_takesOne (pattern : Pattern) :
    ∀ {p q : Place}, pattern.takesOne = true → q ∈ pattern.ends p →
      q.rest.length < p.rest.length := by
  -- what takes nothing goes no way back either
  have hle : ∀ (a : Pattern) {p q : Place}, q ∈ a.ends p →
      q.rest.length ≤ p.rest.length := by
    intro a p q h
    obtain ⟨passed, hpassed⟩ := (reaches_of_mem_ends a h).rest
    rw [hpassed, List.length_append]
    omega
  induction pattern with
  | one test =>
      intro p q _ h
      rw [ends] at h
      split at h
      · cases h
      · next c rest hrest =>
          split at h
          · cases List.mem_singleton.mp h
            rw [hrest, List.length_cons]
            exact Nat.lt_succ_self _
          · cases h
  | seq a b iha ihb =>
      intro p q htakes h
      rw [takesOne, Bool.or_eq_true] at htakes
      obtain ⟨r, hr, hq⟩ := List.mem_flatMap.mp h
      rcases htakes with htakes | htakes
      · exact Nat.lt_of_le_of_lt (hle b hq) (iha htakes hr)
      · exact Nat.lt_of_lt_of_le (ihb htakes hq) (hle a hr)
  | alt a b iha ihb =>
      intro p q htakes h
      rw [takesOne, Bool.and_eq_true] at htakes
      rcases List.mem_append.mp h with h | h
      · exact iha htakes.1 h
      · exact ihb htakes.2 h
  | group a ih =>
      intro p q htakes h
      obtain ⟨r, hr, rfl⟩ := List.mem_map.mp h
      have hlength := ih htakes hr
      exact hlength
  | nothing | opt | atStart | atEnd | wordEdge =>
      intro p q htakes
      cases htakes

/-- Is a group in front the only one of the pattern, and not empty? -/
def leads : Pattern → Bool
  | .group a => a.recordsNothing && a.takesOne
  | .seq .wordEdge b => b.leads
  | .seq a b => a.leads && b.recordsNothing
  | .alt a b => a.leads && b.leads
  | _ => false

/-- The match from `p` to `q` begins with a group, its only one. -/
def Place.Leads (p q : Place) : Prop :=
  ∃ g passed, g ≠ [] ∧ q.groups = p.groups ++ [g] ∧
    p.rest = g ++ (passed ++ q.rest)

theorem Place.Leads.seq {b : Pattern} (h : p.Leads r)
    (hplain : b.recordsNothing = true) (hq : q ∈ b.ends r) : p.Leads q := by
  obtain ⟨g, passed, hne, hgroups, hrest⟩ := h
  obtain ⟨passed', hrest'⟩ := (reaches_of_mem_ends b hq).rest
  refine ⟨g, passed ++ passed', hne, ?_, ?_⟩
  · rw [groups_of_recordsNothing b hplain hq, hgroups]
  · rw [hrest, hrest', List.append_assoc]

/-- The place itself is all that is found at the edge of a word. -/
theorem eq_of_mem_ends_wordEdge (h : q ∈ wordEdge.ends p) : q = p := by
  rw [ends] at h
  split at h
  · exact List.mem_singleton.mp h
  · cases h

theorem leads_of_mem_ends (pattern : Pattern) :
    ∀ {p q : Place}, pattern.leads = true → q ∈ pattern.ends p →
      p.Leads q := by
  induction pattern with
  | group a =>
      intro p q hleads h
      rw [leads, Bool.and_eq_true] at hleads
      obtain ⟨r, hr, rfl⟩ := List.mem_map.mp h
      obtain ⟨passed, hpassed⟩ := (reaches_of_mem_ends a hr).rest
      have hlength := length_lt_of_takesOne a hleads.2 hr
      have htake : p.rest.take (p.rest.length - r.rest.length) = passed := by
        rw [hpassed, List.length_append, Nat.add_sub_cancel, List.take_left]
      refine ⟨passed, [], ?_, ?_, hpassed⟩
      · rintro rfl
        rw [hpassed] at hlength
        exact absurd hlength (Nat.lt_irrefl _)
      · dsimp only
        rw [htake, groups_of_recordsNothing a hleads.1 hr]
  | seq a b iha ihb =>
      intro p q hleads h
      obtain ⟨r, hr, hq⟩ := List.mem_flatMap.mp h
      by_cases hedge : a = wordEdge
      · subst hedge
        rw [eq_of_mem_ends_wordEdge hr] at hq
        exact ihb hleads hq
      · rw [leads, Bool.and_eq_true] at hleads
        · exact (iha hleads.1 hr).seq hleads.2 hq
        · exact hedge
  | alt a b iha ihb =>
      intro p q hleads h
      rw [leads, Bool.and_eq_true] at hleads
      rcases List.mem_append.mp h with h | h
      · exact iha hleads.1 h
      · exact ihb hleads.2 h
  | nothing | one | opt | atStart | atEnd | wordEdge =>
      intro p q hleads
      cases hleads

/-- Does the pattern match up to the end of the text only? -/
def endsText : Pattern → Bool
  | .atEnd => true
  | .seq _ b => b.endsText
  | _ => false

theorem rest_eq_nil_of_endsText (pattern : Pattern) :
    ∀ {p q : Place}, pattern.endsText = true → q ∈ pattern.ends p →
      q.rest = [] := by
  induction pattern with
  | atEnd =>
      intro p q _ h
      rw [ends] at h
      split at h
      · next hempty =>
          cases List.mem_singleton.mp h
          exact List.isEmpty_iff.mp hempty
      · cases h
  | seq a b _ ihb =>
      intro p q hends h
      obtain ⟨r, -, hq⟩ := List.mem_flatMap.mp h
      exact ihb hends hq
  | nothing | one | alt | opt | group | atStart | wordEdge =>
      intro p q hends
      cases hends

end Places

/-! ## §4. Searching. -/

/-- What a match of the pattern in a text consists of; the first group is the
match as a whole. -/
structure IsMatch (pattern : Pattern) (text : List Char) (m : Match)
    (whole : List Char) (groups : List (List Char)) : Prop where
  recorded : m.groups = whole :: groups
  split : text = m.before ++ (whole ++ m.after)
  parts : ∀ g ∈ whole :: groups, g ⊆ text
  wholeGroup : pattern.isWholeGroup = true → groups = [whole]
  leads : pattern.leads = true → ∃ g passed, g ≠ [] ∧ groups = [g] ∧
    whole = g ++ passed
  after : pattern.endsText = true → m.after = []

section Search

variable {pattern : Pattern} {text : List Char} {m : Match}

theorem isMatch_of_mem_ends (before : List Char) {previous : Option Char}
    {q : Place} (h : q ∈ pattern.ends ⟨previous, text, []⟩) :
    pattern.IsMatch (before.reverse ++ text)
      ⟨before.reverse, text.take (text.length - q.rest.length) :: q.groups,
        q.rest⟩
      (text.take (text.length - q.rest.length)) q.groups := by
  have hreach := reaches_of_mem_ends pattern h
  obtain ⟨passed, hpassed⟩ := hreach.rest
  dsimp only at hpassed
  have htake : text.take (text.length - q.rest.length) = passed := by
    rw [hpassed, List.length_append, Nat.add_sub_cancel, List.take_left]
  refine ⟨rfl, by rw [htake, ← hpassed], ?_, ?_, ?_, fun hends =>
    rest_eq_nil_of_endsText pattern hends h⟩
  · intro g hg c hc
    apply List.mem_append_right
    rcases List.mem_cons.mp hg with rfl | hg
    · exact List.mem_of_mem_take hc
    · rcases hreach.groups g hg with hnone | hsub
      · cases hnone
      · exact hsub hc
  · intro hwhole
    exact groups_of_isWholeGroup hwhole h
  · intro hleads
    obtain ⟨g, passed', hne, hgroups, hrest⟩ := leads_of_mem_ends pattern
      hleads h
    refine ⟨g, passed', hne, hgroups, ?_⟩
    dsimp only at hrest
    have hsplit : passed ++ q.rest = (g ++ passed') ++ q.rest := by
      rw [← hpassed, hrest, List.append_assoc]
    rw [htake]
    exact List.append_cancel_right hsplit

theorem searchFrom_isMatch :
    ∀ {before text : List Char}, pattern.searchFrom before text = some m →
      ∃ whole groups,
        pattern.IsMatch (before.reverse ++ text) m whole groups
  | before, [], h => by
      obtain ⟨q, hq, rfl⟩ := Option.map_eq_some_iff.mp h
      have hmatch := isMatch_of_mem_ends before (List.mem_of_head? hq)
      rw [List.take_nil] at hmatch
      exact ⟨_, _, hmatch⟩
  | before, c :: rest, h => by
      unfold searchFrom at h
      split at h
      · next q hq =>
          cases h
          exact ⟨_, _, isMatch_of_mem_ends before (List.mem_of_head? hq)⟩
      · -- no match here, so the search goes on behind the character
        have hnext := searchFrom_isMatch h
        rwa [List.reverse_cons, List.append_assoc] at hnext

theorem search_isMatch (h : pattern.search text = some m) :
    ∃ whole groups, pattern.IsMatch text m whole groups :=
  searchFrom_isMatch h

end Search

end SchemaTables.Text.Pattern
