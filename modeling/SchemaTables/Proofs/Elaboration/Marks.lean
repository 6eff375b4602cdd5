/-
  SchemaTables.Proofs.Elaboration.Marks
  ─────────────────────────────────────
  **WHAT MARKS A FIELD.**

  Directives mark a field by their names: those that name no kind of
  association do not count, wherever they stand.  If the others name two
  kinds, the field is refused for the first of them and the first later one
  that names another kind (`markers_conflict`); if they name one, that is the
  kind.  If they name none, the description counts where that is asked for,
  and there the kind of least `rank` whose keyword stands anywhere in the
  text (`inText?_eq_some`).

  So the order in which directives stand tells no more than which two kinds a
  refusal reports, and how often they stand tells nothing
  (`inferAssociation_settled`).
-/
import SchemaTables.Proofs.Elaboration.Fallback

namespace SchemaTables

/-! ## §1. Keywords in a text. -/

namespace Association

/-- The keyword of the kind stands somewhere in the text. -/
def StandsIn (kind : Association) (text : String) : Prop :=
  ∃ before after, text = before ++ kind.keyword ++ after

/-- A longer keyword goes before the one that stands in it. -/
def rank : Association → Nat
  | .belongsToMany => 0
  | .belongsTo => 1
  | .hasMany => 2
  | .hasOne => 3

/-- The keyword of the kind stands in the text, and of all kinds of which this
is so it has the least rank. -/
def CountsIn (kind : Association) (text : String) : Prop :=
  kind.StandsIn text ∧
    ∀ k : Association, k.StandsIn text → kind.rank ≤ k.rank

theorem rank_injective {a b : Association} (h : a.rank = b.rank) : a = b := by
  cases a <;> cases b <;> first | rfl | cases h

theorem mem_searchOrder (kind : Association) : kind ∈ searchOrder := by
  cases kind <;> decide

theorem searchOrder_increasing :
    searchOrder.Pairwise fun a b => a.rank < b.rank := by
  decide

theorem occursIn_keyword {kind : Association} {text : String} :
    Text.occursIn kind.keyword.toList text.toList = true ↔
      kind.StandsIn text := by
  rw [Text.occursIn_iff]
  constructor
  · intro h
    obtain ⟨before, after, h⟩ := h
    refine ⟨String.ofList before, String.ofList after, ?_⟩
    rw [← String.toList_inj]
    simpa using h
  · intro h
    obtain ⟨before, after, rfl⟩ := h
    exact ⟨before.toList, after.toList, by simp⟩

theorem inText?_eq_none {text : String} :
    inText? text = none ↔ ∀ kind : Association, ¬ kind.StandsIn text := by
  unfold inText?
  rw [List.find?_eq_none]
  simp only [occursIn_keyword]
  exact ⟨fun h kind => h kind (mem_searchOrder kind), fun h kind _ => h kind⟩

/-- What is found comes first among all that stand in the text. -/
theorem countsIn_of_inText? {kind : Association} {text : String}
    (h : inText? text = some kind) : kind.CountsIn text := by
  unfold inText? at h
  obtain ⟨hkind, before, after, hsplit, hbefore⟩ :=
    List.find?_eq_some_iff_append.mp h
  refine ⟨occursIn_keyword.mp hkind, ?_⟩
  intro k hk
  have hmem := mem_searchOrder k
  have hincreasing := searchOrder_increasing
  rw [hsplit] at hmem hincreasing
  rcases List.mem_append.mp hmem with hmem | hmem
  · -- a kind before the one that is found does not stand in the text
    have hnot := hbefore k hmem
    rw [occursIn_keyword.mpr hk] at hnot
    cases hnot
  · rcases List.mem_cons.mp hmem with rfl | hmem
    · exact Nat.le_refl _
    · have htail := (List.pairwise_append.mp hincreasing).2.1
      exact Nat.le_of_lt ((List.pairwise_cons.mp htail).1 k hmem)

/-- Where in the text the keywords stand does not matter. -/
theorem inText?_eq_some {kind : Association} {text : String} :
    inText? text = some kind ↔ kind.CountsIn text := by
  constructor
  · exact countsIn_of_inText?
  · intro h
    cases hfound : inText? text with
    | none => exact absurd h.1 (inText?_eq_none.mp hfound kind)
    | some k =>
        have hk := countsIn_of_inText? hfound
        rw [rank_injective (Nat.le_antisymm (hk.2 kind h.1) (h.2 k hk.1))]

/-- The shorter keyword that stands in a longer one does not count, nor does
the one that stands in front. -/
example : inText? "hasMany readers, belongsToMany through loans"
    = some .belongsToMany := by
  decide +kernel

end Association

/-! ## §2. Kinds that directives name. -/

namespace Elaboration

open Sdl

/-- One of the directives names this kind. -/
def NamesKind (directives : List Directive) (kind : Association) : Prop :=
  ∃ d ∈ directives, d.name = kind.keyword

/-- The first directive that names a kind names `first`, and the first later
one that names another kind names `second`. -/
def FirstConflict (directives : List Directive)
    (first second : Association) : Prop :=
  ∃ before d between d' after,
    directives = before ++ d :: (between ++ d' :: after) ∧
      (∀ x ∈ before, ∀ kind : Association, x.name ≠ kind.keyword) ∧
      d.name = first.keyword ∧
      (∀ x ∈ between, ∀ kind : Association, x.name = kind.keyword →
        kind = first) ∧
      d'.name = second.keyword ∧ second ≠ first

section Names

variable {directives directives' : List Directive}
  {first second kind : Association}

theorem ofKeyword?_eq_some {word : String} :
    Association.ofKeyword? word = some kind ↔ word = kind.keyword := by
  constructor
  · intro h
    have hkeyword := List.find?_some h
    rw [decide_eq_true_eq] at hkeyword
    exact hkeyword.symm
  · intro h
    rw [h, Association.ofKeyword?_keyword]

theorem mem_markers : kind ∈ markers directives ↔ NamesKind directives kind := by
  unfold markers NamesKind
  rw [List.mem_filterMap]
  simp only [ofKeyword?_eq_some]

/-- The first of the kinds is named by a directive before which none names
any. -/
theorem markers_eq_cons {rest : List Association} :
    markers directives = kind :: rest ↔
      ∃ before d after, directives = before ++ d :: after ∧
        (∀ x ∈ before, ∀ k : Association, x.name ≠ k.keyword) ∧
        d.name = kind.keyword ∧ markers after = rest := by
  unfold markers
  rw [List.filterMap_eq_cons_iff]
  simp only [ofKeyword?_eq_none, ofKeyword?_eq_some]

/-- The first kind and the first other one, as directives name them. -/
theorem markers_conflict :
    (∃ same later, markers directives = first :: (same ++ second :: later) ∧
        (∀ k ∈ same, k = first) ∧ second ≠ first) ↔
      FirstConflict directives first second := by
  constructor
  · intro h
    obtain ⟨same, later, hmarkers, hsame, hother⟩ := h
    obtain ⟨before, d, rest, rfl, hbefore, hd, hrest⟩ :=
      markers_eq_cons.mp hmarkers
    -- the directives split where the kinds do; some that name no kind may
    -- still stand before the one that names `second`
    obtain ⟨between, tail, rfl, hbetween, htail⟩ :=
      List.filterMap_eq_append_iff.mp hrest
    obtain ⟨skipped, d', after, rfl, hskipped, hd', -⟩ :=
      markers_eq_cons.mp htail
    refine ⟨before, d, between ++ skipped, d', after, by simp, hbefore, hd,
      ?_, hd', hother⟩
    intro x hx k hk
    rcases List.mem_append.mp hx with hx | hx
    · apply hsame k
      rw [← hbetween]
      exact mem_markers.mpr ⟨x, hx, hk⟩
    · exact absurd hk (hskipped x hx k)
  · intro h
    obtain ⟨before, d, between, d', after, rfl, hbefore, hd, hbetween, hd',
      hother⟩ := h
    have hsecond : markers (d' :: after) = second :: markers after :=
      markers_eq_cons.mpr ⟨[], d', after, rfl, by simp, hd', rfl⟩
    have hrest : markers (between ++ d' :: after)
        = markers between ++ second :: markers after := by
      rw [← hsecond]
      exact List.filterMap_append
    refine ⟨markers between, markers after, ?_, ?_, hother⟩
    · exact markers_eq_cons.mpr ⟨before, d, _, rfl, hbefore, hd, hrest⟩
    · intro k hk
      obtain ⟨x, hx, hname⟩ := mem_markers.mp hk
      exact hbetween x hx k hname

/-- What is named does not depend on the order of the directives, nor on how
often they stand. -/
theorem namesKind_congr (h : ∀ d, d ∈ directives' ↔ d ∈ directives) :
    NamesKind directives' kind ↔ NamesKind directives kind := by
  unfold NamesKind
  simp only [h]

end Names

/-! ## §3. The association of a field. -/

section Settled

variable {options : Options} {site : FieldSite} {f : FieldDefinition}

theorem inferAssociation_conflict {x : ElaborationError} :
    inferAssociation options site f = .error x ↔
      ∃ first second, FirstConflict f.directives first second ∧
        x = .conflictingMarkers site first second := by
  rw [inferAssociation_eq_error, markedAssociation_eq_error]
  simp only [← markers_conflict]
  constructor
  · intro h
    obtain ⟨first, second, same, later, hmarkers, hsame, hother, hx⟩ := h
    exact ⟨first, second, ⟨same, later, hmarkers, hsame, hother⟩, hx⟩
  · intro h
    obtain ⟨first, second, ⟨same, later, hmarkers, hsame, hother⟩, hx⟩ := h
    exact ⟨first, second, same, later, hmarkers, hsame, hother, hx⟩

/-- There is an answer as long as no two kinds are named. -/
theorem inferAssociation_ok_iff :
    (∃ marked, inferAssociation options site f = .ok marked) ↔
      ∀ k k', NamesKind f.directives k → NamesKind f.directives k' →
        k = k' := by
  simp only [inferAssociation_eq_ok, exists_and_left, exists_eq, and_true,
    mem_markers]
  exact ⟨fun h k k' hk hk' => h k hk k' hk', fun h k hk k' hk' =>
    h k k' hk hk'⟩

theorem inferAssociation_fails_iff :
    (∃ x, inferAssociation options site f = .error x) ↔
      ∃ k k', NamesKind f.directives k ∧ NamesKind f.directives k' ∧
        k ≠ k' := by
  have hnot : (∃ x, inferAssociation options site f = .error x) ↔
      ¬ ∃ marked, inferAssociation options site f = .ok marked := by
    cases inferAssociation options site f <;> simp
  rw [hnot, inferAssociation_ok_iff]
  simp only [not_forall, exists_prop]

/-- Where one kind is named, nothing else counts. -/
theorem inferAssociation_of_named {kind : Association}
    (hkind : NamesKind f.directives kind)
    (honly : ∀ k, NamesKind f.directives k → k = kind) :
    inferAssociation options site f = .ok (some kind) := by
  have hall : ∀ k ∈ markers f.directives, k = kind := fun k hk =>
    honly k (mem_markers.mp hk)
  rw [inferAssociation_eq_ok]
  refine ⟨fun k hk k' hk' => (hall k hk).trans (hall k' hk').symm, ?_⟩
  unfold associationOf
  cases hmarkers : markers f.directives with
  | nil =>
      have hmem := mem_markers.mpr hkind
      rw [hmarkers] at hmem
      cases hmem
  | cons k rest =>
      rw [hmarkers] at hall
      rw [hall k List.mem_cons_self]
      rfl

/-- Where no kind is named, the description counts if it is asked for. -/
theorem inferAssociation_of_unnamed
    (hnone : ∀ k, ¬ NamesKind f.directives k) :
    inferAssociation options site f = .ok
      (if options.descriptionFallback then
        f.description.bind Association.inText?
      else none) := by
  have hmarkers : markers f.directives = [] := by
    rw [List.eq_nil_iff_forall_not_mem]
    exact fun k hk => hnone k (mem_markers.mp hk)
  rw [inferAssociation_eq_ok]
  unfold associationOf
  rw [hmarkers]
  simp

theorem inferAssociation_eq_some {kind : Association} :
    inferAssociation options site f = .ok (some kind) ↔
      (NamesKind f.directives kind ∧
          ∀ k, NamesKind f.directives k → k = kind) ∨
        (∀ k, ¬ NamesKind f.directives k) ∧
          options.descriptionFallback = true ∧
            ∃ text, f.description = some text ∧ kind.CountsIn text := by
  constructor
  · intro h
    by_cases hnone : ∀ k, ¬ NamesKind f.directives k
    · rw [inferAssociation_of_unnamed hnone, Except.ok.injEq] at h
      split at h
      · next hfallback =>
          obtain ⟨text, htext, hfound⟩ := Option.bind_eq_some_iff.mp h
          exact .inr ⟨hnone, hfallback, text, htext,
            Association.inText?_eq_some.mp hfound⟩
      · cases h
    · -- that there is an answer means that only one kind is named
      simp only [not_forall, not_not] at hnone
      obtain ⟨k, hk⟩ := hnone
      have honly := inferAssociation_ok_iff.mp ⟨_, h⟩
      rw [inferAssociation_of_named hk fun k' hk' => honly k' k hk' hk] at h
      cases h
      exact .inl ⟨hk, fun k' hk' => honly k' kind hk' hk⟩
  · intro h
    rcases h with ⟨hkind, honly⟩ | ⟨hnone, hfallback, text, htext, hcounts⟩
    · exact inferAssociation_of_named hkind honly
    · rw [inferAssociation_of_unnamed hnone, if_pos hfallback, htext,
        Option.bind_some, Association.inText?_eq_some.mpr hcounts]

theorem inferAssociation_eq_none :
    inferAssociation options site f = .ok none ↔
      (∀ k, ¬ NamesKind f.directives k) ∧
        (options.descriptionFallback = true →
          ∀ text, f.description = some text →
            ∀ kind : Association, ¬ kind.StandsIn text) := by
  constructor
  · intro h
    have hnone : ∀ k, ¬ NamesKind f.directives k := by
      intro k hk
      have honly := inferAssociation_ok_iff.mp ⟨_, h⟩
      rw [inferAssociation_of_named hk fun k' hk' => honly k' k hk' hk] at h
      cases h
    refine ⟨hnone, ?_⟩
    intro hfallback text htext
    rw [inferAssociation_of_unnamed hnone, if_pos hfallback, htext,
      Except.ok.injEq] at h
    exact Association.inText?_eq_none.mp h
  · intro h
    obtain ⟨hnone, hsilent⟩ := h
    rw [inferAssociation_of_unnamed hnone]
    split
    · next hfallback =>
        cases htext : f.description with
        | none => rfl
        | some text =>
            rw [Option.bind_some,
              Association.inText?_eq_none.mpr (hsilent hfallback text htext)]
    · rfl

end Settled

/-- A field is refused if its directives name two kinds, for the first one and
the first later one that is another.  Else it has the kind that they name,
whatever its description says.  If they name none it has the kind that counts
in its description, or none where descriptions do not count, where there is
none or where no keyword stands in it.  The same directives in another order,
or some of them more or less often, make no difference to whether it is
refused, nor to the kind that it has. -/
theorem inferAssociation_settled (options : Options) (site : FieldSite)
    (f : FieldDefinition) :
    (∀ x, inferAssociation options site f = .error x ↔
        ∃ first second, FirstConflict f.directives first second ∧
          x = .conflictingMarkers site first second) ∧
      ((∃ x, inferAssociation options site f = .error x) ↔
        ∃ k k', NamesKind f.directives k ∧ NamesKind f.directives k' ∧
          k ≠ k') ∧
      (∀ kind, inferAssociation options site f = .ok (some kind) ↔
        (NamesKind f.directives kind ∧
            ∀ k, NamesKind f.directives k → k = kind) ∨
          (∀ k, ¬ NamesKind f.directives k) ∧
            options.descriptionFallback = true ∧
              ∃ text, f.description = some text ∧ kind.CountsIn text) ∧
      (inferAssociation options site f = .ok none ↔
        (∀ k, ¬ NamesKind f.directives k) ∧
          (options.descriptionFallback = true →
            ∀ text, f.description = some text →
              ∀ kind : Association, ¬ kind.StandsIn text)) ∧
      ∀ directives, (∀ d, d ∈ directives ↔ d ∈ f.directives) →
        (inferAssociation options site
            { f with directives := directives }).toOption
          = (inferAssociation options site f).toOption := by
  refine ⟨fun x => inferAssociation_conflict, inferAssociation_fails_iff,
    fun kind => inferAssociation_eq_some, inferAssociation_eq_none, ?_⟩
  intro directives hsame
  apply Option.ext
  intro marked
  rw [toOption_eq_some, toOption_eq_some]
  cases marked with
  | some kind =>
      rw [inferAssociation_eq_some, inferAssociation_eq_some]
      simp only [namesKind_congr hsame]
  | none =>
      rw [inferAssociation_eq_none, inferAssociation_eq_none]
      simp only [namesKind_congr hsame]

/-- A field for the one who wrote something, with these directives. -/
def writer (directives : List Directive) : FieldDefinition where
  position := .start
  description := some "Someone who hasMany readers"
  name := "writer"
  type := .named "Person" true
  directives := directives

/-- The field `Book.writer`. -/
def writerSite : FieldSite := ⟨"Book", "writer", ⟨0, .start⟩⟩

/-- Directives that name one kind twice, and one that names none: in another
order and without the repetition they mark the field in the same way. -/
theorem inferAssociation_settled_writer :
    (∀ d, d ∈ [⟨"belongsTo", []⟩, ⟨"deprecated", []⟩] ↔
        d ∈ (writer [⟨"deprecated", []⟩, ⟨"belongsTo", []⟩,
          ⟨"belongsTo", []⟩]).directives) ∧
      (inferAssociation withDescriptions writerSite
          (writer [⟨"belongsTo", []⟩, ⟨"deprecated", []⟩])).toOption
        = (inferAssociation withDescriptions writerSite
          (writer [⟨"deprecated", []⟩, ⟨"belongsTo", []⟩,
            ⟨"belongsTo", []⟩])).toOption ∧
      inferAssociation withDescriptions writerSite
          (writer [⟨"belongsTo", []⟩, ⟨"deprecated", []⟩])
        = .ok (some .belongsTo) := by
  have hsame : ∀ d : Directive, d ∈ [⟨"belongsTo", []⟩, ⟨"deprecated", []⟩] ↔
      d ∈ (writer [⟨"deprecated", []⟩, ⟨"belongsTo", []⟩,
        ⟨"belongsTo", []⟩]).directives := by
    intro d
    simp [writer, or_comm]
  exact ⟨hsame,
    (inferAssociation_settled withDescriptions writerSite
      (writer [⟨"deprecated", []⟩, ⟨"belongsTo", []⟩,
        ⟨"belongsTo", []⟩])).2.2.2.2 _ hsame, rfl⟩

end Elaboration

end SchemaTables
