/-
  SchemaTables.Proofs.Text.Recased
  ────────────────────────────────
  **PLURALS THAT ARE THEIR NAMES IN ANOTHER CASE.**

  A word that English leaves as it is gets an `s`, so that no name is its own
  plural (`pluralOf_ne`).  That compares the two as they are written.  In
  lower camel case they may still be one (`Recased`): the plural of `Dice` is
  `dice`, a word of its own as written, and gets no `s`.

  It comes to this for every identifier: the `s` always makes a difference
  (`lowerCamelCase_pluralOf`), since it adds a letter, and lower camel case
  loses none (`letters_lowerCamel`).  Of names in upper camel case there are
  finitely many of this kind, and they can be listed (`recased_iff`).  The
  plural of such a name is a part of it, from its beginning, with small
  letters behind (`PluralRule.continues_of_apply?`), so that it keeps its
  capital unless nothing is kept.
-/
import SchemaTables.Proofs.Text.Plural

namespace SchemaTables.Text

/-! ## §1. Letters in one case. -/

/-- The letters and digits of a text, all letters small. -/
def letters (cs : List Char) : List Char :=
  (cs.filter isAlphanumeric).map Char.toLower

theorem letters_append (cs ds : List Char) :
    letters (cs ++ ds) = letters cs ++ letters ds := by
  unfold letters
  rw [List.filter_append, List.map_append]

theorem flatten_consWord (word : List Char) (ws : List (List Char)) :
    (consWord word ws).flatten = word.reverse ++ ws.flatten := by
  unfold consWord
  cases word <;> simp

/-- The words of a text are all its letters and digits. -/
theorem flatten_wordsFrom (cs : List Char) :
    ∀ {tail : WordTail} {word : List Char},
      (wordsFrom tail word cs).flatten
        = word.reverse ++ cs.filter isAlphanumeric := by
  induction cs with
  | nil =>
      intro tail word
      rw [wordsFrom, flatten_consWord]
      rfl
  | cons c rest ih =>
      intro tail word
      unfold wordsFrom
      by_cases hc : isAlphanumeric c = true
      · rw [hc, if_neg (by simp), List.filter_cons_of_pos hc]
        cases rest with
        | nil => simp [flatten_consWord]
        | cons next rest =>
            dsimp only [List.head?_cons]
            split
            · rw [flatten_consWord, ih]
              simp
            · split
              · rw [flatten_consWord, ih]
                simp
              · rw [ih]
                simp
      · rw [Bool.not_eq_true] at hc
        rw [hc, if_pos (by rfl), flatten_consWord, ih,
          List.filter_cons_of_neg (by simp [hc])]
        rfl

section Letters

variable {c : Char} {cs ds w : List Char}

theorem toLower_toLower (h : isNameChar c = true) :
    c.toLower.toLower = c.toLower := by
  have hall := forall_ascii (c := c)
    (p := fun c => c.toLower.toLower = c.toLower) (by decide +kernel)
    (toNat_lt_of_isNameChar h)
  exact of_decide_eq_true hall

theorem toLower_toUpper (h : isNameChar c = true) :
    c.toUpper.toLower = c.toLower := by
  have hall := forall_ascii (c := c)
    (p := fun c => c.toUpper.toLower = c.toLower) (by decide +kernel)
    (toNat_lt_of_isNameChar h)
  exact of_decide_eq_true hall

theorem toUpper_toLower (h : isNameChar c = true) :
    c.toLower.toUpper = c.toUpper := by
  have hall := forall_ascii (c := c)
    (p := fun c => c.toLower.toUpper = c.toUpper) (by decide +kernel)
    (toNat_lt_of_isNameChar h)
  exact of_decide_eq_true hall

theorem lowerChar_of_nameChar (h : isNameChar c = true) :
    lowerChar c = [c.toLower] :=
  if_pos (toNat_lt_of_isNameChar h)

theorem upperChar_of_nameChar (h : isNameChar c = true) :
    upperChar c = [c.toUpper] :=
  if_pos (toNat_lt_of_isNameChar h)

theorem lowerWord_of_nameChars :
    ∀ {w : List Char}, (∀ c ∈ w, isNameChar c = true) →
      lowerWord w = w.map Char.toLower
  | [], _ => rfl
  | [c], h => by
      have hc := h c List.mem_cons_self
      rw [lowerWord, if_neg (ne_capitalSigma (toNat_lt_of_isNameChar hc)),
        lowerChar_of_nameChar hc]
      rfl
  | c :: d :: rest, h => by
      have hrest := lowerWord_of_nameChars fun x hx =>
        h x (List.mem_cons_of_mem c hx)
      rw [lowerWord, hrest, lowerChar_of_nameChar (h c List.mem_cons_self)]
      · rfl
      · simp

/-- Whichever case a word is written in, its letters are the same. -/
theorem toLower_lowerWord (h : ∀ c ∈ w, isNameChar c = true) :
    (lowerWord w).map Char.toLower = w.map Char.toLower := by
  rw [lowerWord_of_nameChars h, List.map_map]
  exact List.map_congr_left fun c hc => toLower_toLower (h c hc)

theorem toLower_capitalWord (h : ∀ c ∈ w, isNameChar c = true) :
    (capitalWord w).map Char.toLower = w.map Char.toLower := by
  cases w with
  | nil => rfl
  | cons c rest =>
      obtain ⟨hc, hrest⟩ := List.forall_mem_cons.mp h
      rw [capitalWord, upperChar_of_nameChar hc, List.map_append,
        toLower_lowerWord hrest, List.map_cons, List.map_cons,
        toLower_toUpper hc]
      rfl

/-- Lower camel case loses no letters. -/
theorem letters_lowerCamel (h : ∀ c ∈ cs, isNameChar c = true) :
    (lowerCamel cs).map Char.toLower = letters cs := by
  have hflat : (words cs).flatten = cs.filter isAlphanumeric :=
    flatten_wordsFrom cs
  have hwords : ∀ w ∈ words cs, ∀ c ∈ w, isNameChar c = true := by
    intro w hw c hc
    have hmem : c ∈ (words cs).flatten := List.mem_flatten_of_mem hw hc
    rw [hflat] at hmem
    exact h c (List.mem_filter.mp hmem).1
  unfold letters
  rw [← hflat]
  unfold lowerCamel
  cases hcs : words cs with
  | nil => rfl
  | cons w ws =>
      rw [hcs] at hwords
      obtain ⟨hw, hws⟩ := List.forall_mem_cons.mp hwords
      have hothers : (ws.flatMap capitalWord).map Char.toLower
          = ws.flatten.map Char.toLower := by
        rw [List.map_flatMap, List.map_flatten, List.flatMap_def,
          List.map_congr_left fun v hv => toLower_capitalWord (hws v hv)]
      rw [List.flatten_cons, List.map_append, List.map_append, hothers,
        toLower_lowerWord hw]

/-- Names that are one in lower camel case have the same letters. -/
theorem letters_eq (hcs : ∀ c ∈ cs, isNameChar c = true)
    (hds : ∀ c ∈ ds, isNameChar c = true)
    (h : lowerCamel cs = lowerCamel ds) : letters cs = letters ds := by
  rw [← letters_lowerCamel hcs, ← letters_lowerCamel hds, h]

end Letters

/-! ## §2. The letter that is added. -/

/-- The plural of the name is another word, but not in lower camel case. -/
def Recased (name : String) : Prop :=
  pluralize name.toList ≠ name.toList ∧
    lowerCamel (pluralize name.toList) = lowerCamel name.toList

instance (name : String) : Decidable (Recased name) :=
  inferInstanceAs (Decidable (_ ∧ _))

/-- A name and its plural are one in lower camel case just if the plural is
the name in another case: where an `s` is added they are never one. -/
theorem lowerCamelCase_pluralOf {name : String} (h : IsIdentifier name) :
    lowerCamelCase (pluralOf name) = lowerCamelCase name ↔ Recased name := by
  unfold lowerCamelCase pluralOf Recased
  dsimp only
  by_cases hsame : pluralize name.toList = name.toList
  · rw [if_pos (by rw [hsame, String.ofList_toList])]
    constructor
    · intro hone
      rw [String.ofList_inj, String.toList_append] at hone
      have hs : ∀ c ∈ "s".toList, isNameChar c = true :=
        List.forall_mem_singleton.mpr rfl
      have hletters := letters_eq
        (List.forall_mem_append.mpr ⟨h, hs⟩) h hone
      have hlength := congrArg List.length hletters
      -- one of them has a letter more
      have hletter : (letters "s".toList).length = 1 := by decide
      rw [letters_append, List.length_append, hletter] at hlength
      omega
    · intro hrecased
      exact absurd hsame hrecased.1
  · rw [if_neg, String.toList_ofList, String.ofList_inj]
    · exact (and_iff_right hsame).symm
    · intro hofList
      have htoList := congrArg String.toList hofList
      rw [String.toList_ofList] at htoList
      exact hsame htoList

/-! ## §3. Words that begin with a capital. -/

section Capitals

variable {c u : Char} {word out cs g : List Char}

theorem isNameChar_eq (c : Char) : isNameChar c =
    (c.isUpper || c.isLower || c.isDigit || decide (c = '_')) := rfl

theorem nameChars_of_isUpperCamel (h : isUpperCamel word = true) :
    ∀ c ∈ word, isNameChar c = true ∧ isAlphanumeric c = true := by
  intro c hc
  rcases forall_of_isUpperCamel h c hc with hupper | hsmall
  · refine ⟨?_, (isCapital_of_isUpper hupper).alphanumeric⟩
    simp [isNameChar_eq, hupper]
  · refine ⟨?_, (isLittle_of_isSmall hsmall).alphanumeric⟩
    unfold isSmall at hsmall
    rw [Bool.or_eq_true] at hsmall
    rcases hsmall with hlower | hdigit
    · simp [isNameChar_eq, hlower]
    · simp [isNameChar_eq, hdigit]

theorem isIdentifier_of_upperCamel {name : String} (h : UpperCamel name) :
    IsIdentifier name := fun c hc => (nameChars_of_isUpperCamel h c hc).1

theorem isSmall_of_isLower (h : c.isLower = true) : isSmall c = true := by
  simp [isSmall, h]

theorem nameChar_of_isLower (h : c.isLower = true) : isNameChar c = true := by
  simp [isNameChar_eq, h]

theorem toLower_of_isLower (h : c.isLower = true) : c.toLower = c := by
  have hlow := (isLittle_of_isSmall (isSmall_of_isLower h)).lowerChar
  rw [lowerChar_of_nameChar (nameChar_of_isLower h)] at hlow
  exact (List.cons.inj hlow).1

theorem toLower_ne_of_isUpper (h : u.isUpper = true) : u.toLower ≠ u := by
  have hall := forall_ascii (c := u)
    (p := fun c => !c.isUpper || c.toLower ≠ c) (by decide +kernel)
    (toNat_lt_of_isUpper h)
  simpa [h] using hall

/-- Nothing but letters and digits. -/
theorem letters_of_alphanumeric (h : ∀ c ∈ cs, isAlphanumeric c = true) :
    letters cs = cs.map Char.toLower := by
  unfold letters
  rw [List.filter_eq_self.mpr h]

theorem letters_of_isLower (h : ∀ c ∈ cs, c.isLower = true) :
    letters cs = cs := by
  have hid : ∀ c ∈ cs, c.toLower = id c := fun c hc =>
    toLower_of_isLower (h c hc)
  rw [letters_of_alphanumeric fun c hc =>
    (isLittle_of_isSmall (isSmall_of_isLower (h c hc))).alphanumeric,
    List.map_congr_left hid, List.map_id]

theorem nameChars_upper (h : ∀ c ∈ cs, isNameChar c = true) :
    ∀ c ∈ upper cs, isNameChar c = true := by
  rw [upper_of_nameChars h]
  intro c hc
  obtain ⟨d, hd, rfl⟩ := List.mem_map.mp hc
  exact recases_toUpper.nameChar (h d hd)

theorem letters_upper (h : ∀ c ∈ cs, isNameChar c = true) :
    letters (upper cs) = letters cs := by
  have hsame : cs.filter (isAlphanumeric ∘ Char.toUpper)
      = cs.filter isAlphanumeric :=
    List.filter_congr fun c hc => recases_toUpper.alphanumeric (h c hc)
  unfold letters
  rw [upper_of_nameChars h, List.filter_map, hsame, List.map_map]
  exact List.map_congr_left fun c hc =>
    toLower_toUpper (h c (List.mem_filter.mp hc).1)

/-- Where all letters are capitals, upper case changes none of them. -/
theorem toUpper_of_upper (hword : ∀ c ∈ word, isNameChar c = true)
    (h : word = upper word) : ∀ c ∈ word, c.toUpper = c := by
  rw [upper_of_nameChars hword] at h
  have hmap : word.map Char.toUpper = word.map id := by
    rw [List.map_id, ← h]
  exact List.map_inj_left.mp hmap

/-- A part of such a word comes back from lower case. -/
theorem upper_lower_part (hword : ∀ c ∈ word, isNameChar c = true)
    (h : word = upper word) (hg : g ⊆ word) :
    upper (g.map Char.toLower) = g := by
  have hchars : ∀ c ∈ g.map Char.toLower, isNameChar c = true := by
    intro c hc
    obtain ⟨d, hd, rfl⟩ := List.mem_map.mp hc
    exact recases_toLower.nameChar (hword d (hg hd))
  have hid : ∀ c ∈ g, (Char.toUpper ∘ Char.toLower) c = id c := by
    intro c hc
    rw [Function.comp_apply, toUpper_toLower (hword c (hg hc))]
    exact toUpper_of_upper hword h c (hg hc)
  rw [upper_of_nameChars hchars, List.map_map, List.map_congr_left hid,
    List.map_id]

/-- A word that begins with a capital leaves a text as it is, or writes it in
capitals if it has no small letters itself. -/
theorem matchCase_of_upperCamel (h : isUpperCamel word = true)
    (new : List Char) :
    matchCase word new = new ∨
      word = upper word ∧ matchCase word new = upper new := by
  have hchars : ∀ c ∈ word, isNameChar c = true := fun c hc =>
    (nameChars_of_isUpperCamel h c hc).1
  cases word with
  | nil => cases h
  | cons u cs =>
      rw [isUpperCamel, Bool.and_eq_true] at h
      unfold matchCase
      split
      · exact .inl rfl
      · split
        · next hlower =>
            -- the capital would be small
            have hmap : lower (u :: cs) = (u :: cs).map Char.toLower :=
              lowerAfter_of_nameChars hchars []
            rw [hmap, List.map_cons, List.cons.injEq] at hlower
            exact absurd hlower.1.symm (toLower_ne_of_isUpper h.1)
        · split
          · next hupper => exact .inr ⟨hupper, rfl⟩
          · rw [List.head?_cons, Option.any_some,
              (isCapital_of_isUpper h.1).uppercase, if_pos rfl]
            exact .inl rfl

/-- It leaves its own parts as they are in any case. -/
theorem matchCase_part (h : isUpperCamel word = true) (hg : g ⊆ word) :
    matchCase word g = g := by
  have hchars : ∀ c ∈ word, isNameChar c = true := fun c hc =>
    (nameChars_of_isUpperCamel h c hc).1
  rcases matchCase_of_upperCamel h g with hsame | ⟨hupper, hcase⟩
  · exact hsame
  · have hid : ∀ c ∈ g, c.toUpper = id c := fun c hc =>
      toUpper_of_upper hchars hupper c (hg hc)
    rw [hcase, upper_of_nameChars fun c hc => hchars c (hg hc),
      List.map_congr_left hid, List.map_id]

/-- A plural in small letters is the name with a small letter in front. -/
theorem eq_capital_of_isLower (h : isUpperCamel word = true)
    (hout : ∀ c ∈ out, c.isLower = true)
    (hone : lowerCamel out = lowerCamel word) :
    String.ofList word = capital (String.ofList out) := by
  cases word with
  | nil => cases h
  | cons u cs =>
      rw [lowerCamel_of_upperCamel h] at hone
      cases out with
      | nil => cases hone
      | cons l ls =>
          obtain ⟨hl, hls⟩ := List.forall_mem_cons.mp hout
          rw [lowerCamel_of_isLower hl (isCamelTail_of_small fun c hc =>
            isSmall_of_isLower (hls c hc)), List.cons.injEq] at hone
          obtain ⟨rfl, rfl⟩ := hone
          rw [isUpperCamel, Bool.and_eq_true] at h
          unfold capital
          rw [String.toList_ofList]
          dsimp only
          rw [(isCapital_of_isUpper h.1).toUpper_toLower]

/-! ## §4. Irregular words. -/

/-- The plurals have small letters only, more than one.  One with the letters
of its word is that word. -/
theorem irregularPlurals_letters : ∀ e ∈ irregularPlurals,
    2 ≤ e.2.toList.length ∧ (∀ c ∈ e.2.toList, c.isLower = true) ∧
      (letters e.2.toList = e.1.toList → e.2 = e.1) := by
  have htable : irregularPlurals.all (fun e =>
      2 ≤ e.2.toList.length && e.2.toList.all Char.isLower &&
        (letters e.2.toList ≠ e.1.toList || e.2 = e.1)) = true := by
    decide +kernel
  intro e he
  have hentry := List.all_eq_true.mp htable e he
  simp only [Bool.and_eq_true, List.all_eq_true, Bool.or_eq_true,
    decide_eq_true_eq, ne_eq] at hentry
  obtain ⟨⟨hlength, hsmall⟩, hletters⟩ := hentry
  exact ⟨hlength, hsmall, fun heq => hletters.resolve_left (absurd heq)⟩

/-- A word that is an irregular plural gets this plural in small letters,
which is another word only if it has a capital in front. -/
theorem eq_capital_of_plural {e : String × String}
    (h : isUpperCamel word = true) (he : e ∈ irregularPlurals)
    (hplural : e.2.toList = lower word)
    (hne : matchCase word (lower word) ≠ word)
    (hone : lowerCamel (matchCase word (lower word)) = lowerCamel word) :
    String.ofList word = capital e.2 := by
  have hchars : ∀ c ∈ word, isNameChar c = true := fun c hc =>
    (nameChars_of_isUpperCamel h c hc).1
  rcases matchCase_of_upperCamel h (lower word) with
    hsame | ⟨hupper, hcapitals⟩
  · rw [hsame, ← hplural] at hone
    have heq := eq_capital_of_isLower h
      (irregularPlurals_letters e he).2.1 hone
    rw [String.ofList_toList] at heq
    exact heq
  · -- in capitals it is the word again
    have hlower : lower word = word.map Char.toLower :=
      lowerAfter_of_nameChars hchars []
    have hback : upper (lower word) = word := by
      rw [hlower]
      exact upper_lower_part hchars hupper (List.Subset.refl word)
    exact absurd (hcapitals.trans hback) hne

/-- An irregular word that is its plural in lower camel case is its plural. -/
theorem eq_of_singular {e : String × String} (h : isUpperCamel word = true)
    (he : e ∈ irregularPlurals) (hsingular : e.1.toList = lower word)
    (hone : lowerCamel (matchCase word e.2.toList) = lowerCamel word) :
    e.2 = e.1 := by
  have hboth := nameChars_of_isUpperCamel h
  have hchars : ∀ c ∈ word, isNameChar c = true := fun c hc =>
    (hboth c hc).1
  have hlower : lower word = word.map Char.toLower :=
    lowerAfter_of_nameChars hchars []
  have hplural := (irregularPlurals_words e he).1
  have hout : (∀ c ∈ matchCase word e.2.toList, isNameChar c = true) ∧
      letters (matchCase word e.2.toList) = letters e.2.toList := by
    rcases matchCase_of_upperCamel h e.2.toList with hsame | ⟨-, hcapitals⟩
    · rw [hsame]
      exact ⟨hplural, rfl⟩
    · rw [hcapitals]
      exact ⟨nameChars_upper hplural, letters_upper hplural⟩
  apply (irregularPlurals_letters e he).2.2
  rw [← hout.2, letters_eq hout.1 hchars hone,
    letters_of_alphanumeric fun c hc => (hboth c hc).2, hsingular, hlower]

theorem eq_capital_of_irregular (h : isUpperCamel word = true)
    (hirregular : irregular? word = some out) (hne : out ≠ word)
    (hone : lowerCamel out = lowerCamel word) :
    ∃ e ∈ irregularPlurals, String.ofList word = capital e.2 := by
  unfold irregular? at hirregular
  dsimp only at hirregular
  split at hirregular
  · next hplural =>
      cases hirregular
      obtain ⟨e, he, hsmall⟩ := List.any_eq_true.mp hplural
      rw [decide_eq_true_eq] at hsmall
      exact ⟨e, he, eq_capital_of_plural h he hsmall hne hone⟩
  · next hnone =>
      obtain ⟨e, hfound, rfl⟩ := Option.map_eq_some_iff.mp hirregular
      have he := List.mem_of_find?_eq_some hfound
      have hsmall := List.find?_some hfound
      rw [decide_eq_true_eq] at hsmall
      -- the word itself would stand among the plurals
      have heq := eq_of_singular h he hsmall hone
      exfalso
      apply hnone
      rw [List.any_eq_true]
      exact ⟨e, he, by rw [decide_eq_true_eq, heq, hsmall]⟩

section Capital

variable {l : Char} {ls : List Char} (hsmall : ∀ c ∈ l :: ls, c.isLower = true)

include hsmall

theorem isUpperCamel_capital : isUpperCamel (l.toUpper :: ls) = true := by
  obtain ⟨hl, hls⟩ := List.forall_mem_cons.mp hsmall
  rw [isUpperCamel, isUpper_toUpper_of_isLower hl,
    isCamelTail_of_small fun c hc => isSmall_of_isLower (hls c hc)]
  rfl

theorem lower_capital : lower (l.toUpper :: ls) = l :: ls := by
  obtain ⟨hl, hls⟩ := List.forall_mem_cons.mp hsmall
  have hchars : ∀ c ∈ l.toUpper :: ls, isNameChar c = true := fun c hc =>
    (nameChars_of_isUpperCamel (isUpperCamel_capital hsmall) c hc).1
  have hmap : lower (l.toUpper :: ls) = (l.toUpper :: ls).map Char.toLower :=
    lowerAfter_of_nameChars hchars []
  have hid : ∀ c ∈ ls, c.toLower = id c := fun c hc =>
    toLower_of_isLower (hls c hc)
  rw [hmap, List.map_cons, toLower_toUpper_of_isLower hl,
    List.map_congr_left hid, List.map_id]

/-- A single capital does not ask for capitals. -/
theorem matchCase_capital (hne : ls ≠ []) (new : List Char) :
    matchCase (l.toUpper :: ls) new = new := by
  have hcamel := isUpperCamel_capital hsmall
  rcases matchCase_of_upperCamel hcamel new with hsame | ⟨hupper, -⟩
  · exact hsame
  · -- the second letter is no capital
    obtain ⟨c, hc⟩ := List.exists_mem_of_ne_nil ls hne
    have hlower := hsmall c (List.mem_cons_of_mem _ hc)
    have hsame := toUpper_of_upper
      (fun c hc => (nameChars_of_isUpperCamel hcamel c hc).1) hupper c
      (List.mem_cons_of_mem _ hc)
    have hcapital := isUpper_toUpper_of_isLower hlower
    rw [hsame, not_isUpper_of_isSmall (isSmall_of_isLower hlower)] at hcapital
    cases hcapital

end Capital

/-- Irregular plurals with a capital in front have these plurals again, and
the two are the same in lower camel case. -/
theorem recased_of_irregular {e : String × String}
    (he : e ∈ irregularPlurals) : Recased (capital e.2) := by
  obtain ⟨hlength, hsmall, -⟩ := irregularPlurals_letters e he
  obtain ⟨l, l', ls, hword⟩ : ∃ l l' ls, e.2.toList = l :: l' :: ls := by
    match e.2.toList, hlength with
    | l :: l' :: ls, _ => exact ⟨l, l', ls, rfl⟩
  have hcapital : (capital e.2).toList = l.toUpper :: l' :: ls := by
    unfold capital
    rw [hword]
    exact String.toList_ofList
  rw [hword] at hsmall
  have hplural : pluralize (l.toUpper :: l' :: ls) = l :: l' :: ls := by
    have hany : (irregularPlurals.any fun x =>
        x.2.toList = lower (l.toUpper :: l' :: ls)) = true := by
      rw [List.any_eq_true, lower_capital hsmall]
      exact ⟨e, he, by rw [hword, decide_eq_true rfl]⟩
    unfold pluralize irregular?
    dsimp only
    rw [if_pos hany, lower_capital hsmall,
      matchCase_capital hsmall (List.cons_ne_nil l' ls)]
  unfold Recased
  rw [hcapital, hplural]
  obtain ⟨hl, hrest⟩ := List.forall_mem_cons.mp hsmall
  constructor
  · intro heq
    rw [List.cons.injEq] at heq
    have hu := isUpper_toUpper_of_isLower hl
    rw [← heq.1, not_isUpper_of_isSmall (isSmall_of_isLower hl)] at hu
    cases hu
  · rw [lowerCamel_of_upperCamel (isUpperCamel_capital hsmall),
      toLower_toUpper_of_isLower hl, lowerCamel_of_isLower hl
        (isCamelTail_of_small fun c hc => isSmall_of_isLower (hrest c hc))]

end Capitals

/-! ## §5. Rules. -/

/-- The templates that have no mark for what was matched. -/
def wholeTemplates : List String := ["s", "ses", "men", "you"]

namespace PluralRule

/-- What the template says, without its marks. -/
def ending (rule : PluralRule) : List Char := dropMarks rule.template.toList

/-- Does the rule keep how the match begins?  A second mark stands for a
group that never takes part together with the first. -/
def keepsGroup (rule : PluralRule) : Bool :=
  rule.pattern.leads &&
    (rule.template.toList = '$' :: '1' :: rule.ending ||
      rule.template.toList = '$' :: '1' :: '$' :: '2' :: rule.ending)

/-- Does the rule put its template in the place of the whole match? -/
def replacesAll (rule : PluralRule) : Bool :=
  rule.template.toList = rule.ending && wholeTemplates.contains rule.template

/-- Every rule goes to the end of the word.  It puts the match back, keeps its
beginning or keeps nothing of it, and adds nothing but small letters. -/
theorem keepsGroup_or_replacesAll : ∀ rule ∈ rulesInOrder,
    rule.pattern.endsText = true ∧
      (∀ c ∈ rule.ending, c.isLower = true) ∧
      (rule.putsBack = true ∨ rule.keepsGroup = true ∨
        rule.replacesAll = true) := by
  have hall : (rulesInOrder.all fun rule =>
      rule.pattern.endsText && rule.ending.all Char.isLower &&
        (rule.putsBack || rule.keepsGroup || rule.replacesAll)) = true := by
    decide +kernel
  intro rule hrule
  have hboth := List.all_eq_true.mp hall rule hrule
  simpa [or_assoc, and_assoc] using hboth

section Marks

variable {new text : List Char}

/-- A mark of another group is passed over. -/
theorem replaceAll_go_mark {d d' : Char} (hne : d ≠ d') (hd' : d' ≠ '$')
    (fuel : Nat) (text : List Char) :
    replaceAll.go ['$', d] new (fuel + 2) ('$' :: d' :: text)
      = '$' :: d' :: replaceAll.go ['$', d] new fuel text := by
  have hno : ((! List.isEmpty ['$', d]) &&
      ['$', d].isPrefixOf ('$' :: d' :: text)) = false := by
    simp [List.isPrefixOf, hne]
  rw [replaceAll.go, hno, if_neg (by simp), replaceAll_go_skip _ _ _ hd']

/-- A text may have the mark of the first group in front, and then that of the
second, which is no group of the match. -/
theorem fill_keepsGroup {word whole g t : List Char} (ht : '$' ∉ t)
    (hg : '$' ∉ matchCase word g)
    (htext : text = '$' :: '1' :: t ∨ text = '$' :: '1' :: '$' :: '2' :: t) :
    dropMarks (fillGroups word 0 [whole, g] text) = matchCase word g ++ t := by
  have hzero : (Nat.repr 0).toList = ['0'] := by decide
  have hone : (Nat.repr 1).toList = ['1'] := by decide
  -- neither replacement finds its mark in what comes behind
  have htail : ∀ d new fuel, replaceAll.go ['$', d] new fuel t = t :=
    fun d new fuel => replaceAll_go_of_plain _ _ _ ht
  rw [fillGroups, fillGroups, fillGroups, hzero, hone]
  rcases htext with rfl | rfl
  · have hfirst : replaceAll ['$', '0'] (matchCase word whole)
        ('$' :: '1' :: t) = '$' :: '1' :: t := by
      show replaceAll.go _ _ (t.length + 2) _ = _
      rw [replaceAll_go_mark (by decide) (by decide), htail]
    have hsecond : replaceAll ['$', '1'] (matchCase word g)
        ('$' :: '1' :: t) = matchCase word g ++ t := by
      show matchCase word g ++ replaceAll.go _ _ (t.length + 1) t = _
      rw [htail]
    rw [hfirst, hsecond, dropMarks_append hg, dropMarks_of_plain ht]
  · have hfirst : replaceAll ['$', '0'] (matchCase word whole)
        ('$' :: '1' :: '$' :: '2' :: t) = '$' :: '1' :: '$' :: '2' :: t := by
      show replaceAll.go _ _ (t.length + 2 + 2) _ = _
      rw [replaceAll_go_mark (by decide) (by decide),
        replaceAll_go_mark (by decide) (by decide), htail]
    have hsecond : replaceAll ['$', '1'] (matchCase word g)
        ('$' :: '1' :: '$' :: '2' :: t)
        = matchCase word g ++ '$' :: '2' :: t := by
      show matchCase word g ++
        replaceAll.go _ _ (t.length + 1 + 2) ('$' :: '2' :: t) = _
      rw [replaceAll_go_mark (by decide) (by decide), htail]
    rw [hfirst, hsecond, dropMarks_append hg]
    exact congrArg _ (dropMarks_of_plain ht)

end Marks

end PluralRule

/-- The plural is a part of the word from its beginning, with an ending in
small letters, or in capitals if the word has no small ones.  If nothing is
kept of the word, the ending is the template of a rule. -/
structure Continues (word out kept gone ending : List Char) : Prop where
  split : word = kept ++ gone
  small : ∀ c ∈ ending, c.isLower = true
  plural : out = kept ++ ending ∨
    word = upper word ∧ out = kept ++ upper ending
  whole : kept = [] → String.ofList ending ∈ wholeTemplates

section Rules

variable {rule : PluralRule} {word out : List Char}

theorem dollar_notMem_of_nameChars {cs : List Char}
    (h : ∀ c ∈ cs, isNameChar c = true) : '$' ∉ cs := by
  intro hmem
  exact absurd (h _ hmem) (by decide)

namespace PluralRule

/-- A rule that keeps how the match begins puts its ending behind that. -/
theorem continues_of_keepsGroup {before g passed : List Char}
    (h : isUpperCamel word = true) (hsplit : word = before ++ (g ++ passed))
    (hg : g ≠ []) (hsmall : ∀ c ∈ rule.ending, c.isLower = true)
    (htemplate : rule.template.toList = '$' :: '1' :: rule.ending ∨
      rule.template.toList = '$' :: '1' :: '$' :: '2' :: rule.ending) :
    Continues word
      (before ++ dropMarks (fillGroups word 0 [g ++ passed, g]
        (matchCase word rule.template.toList)))
      (before ++ g) passed rule.ending := by
  have hendingChars : ∀ c ∈ rule.ending, isNameChar c = true := fun c hc =>
    nameChar_of_isLower (hsmall c hc)
  have hgword : g ⊆ word := fun c hc =>
    hsplit ▸ List.mem_append_right _ (List.mem_append_left _ hc)
  have hkept := matchCase_part h hgword
  have hgplain : '$' ∉ matchCase word g := by
    rw [hkept]
    exact dollar_notMem_of_nameChars fun c hc =>
      (nameChars_of_isUpperCamel h c (hgword hc)).1
  refine ⟨by rw [List.append_assoc, hsplit], hsmall, ?_, ?_⟩
  · rcases matchCase_of_upperCamel h rule.template.toList with
      hsame | ⟨hupper, hcapitals⟩
    · left
      rw [hsame, fill_keepsGroup (dollar_notMem_of_nameChars hendingChars)
        hgplain htemplate, hkept, List.append_assoc]
    · right
      refine ⟨hupper, ?_⟩
      have htemplate' : upper rule.template.toList
            = '$' :: '1' :: upper rule.ending ∨
          upper rule.template.toList
            = '$' :: '1' :: '$' :: '2' :: upper rule.ending := by
        rcases htemplate with htemplate | htemplate
        · left
          rw [htemplate]
          rfl
        · right
          rw [htemplate]
          rfl
      rw [hcapitals, fill_keepsGroup
        (dollar_notMem_of_nameChars (nameChars_upper hendingChars))
        hgplain htemplate', hkept, List.append_assoc]
  · intro hnil
    exact absurd (List.append_eq_nil_iff.mp hnil).2 hg

/-- A rule that replaces all of the match puts its ending in its place. -/
theorem continues_of_replacesAll {before whole : List Char}
    (groups : List (List Char)) (h : isUpperCamel word = true)
    (hsplit : word = before ++ whole)
    (hsmall : ∀ c ∈ rule.ending, c.isLower = true)
    (hall : rule.replacesAll = true) :
    Continues word
      (before ++ dropMarks (fillGroups word 0 groups
        (matchCase word rule.template.toList)))
      before whole rule.ending := by
  have hendingChars : ∀ c ∈ rule.ending, isNameChar c = true := fun c hc =>
    nameChar_of_isLower (hsmall c hc)
  have hplain := dollar_notMem_of_nameChars hendingChars
  have hplain' := dollar_notMem_of_nameChars (nameChars_upper hendingChars)
  unfold replacesAll at hall
  rw [Bool.and_eq_true, decide_eq_true_eq, List.contains_iff_mem] at hall
  obtain ⟨htemplate, hmem⟩ := hall
  refine ⟨hsplit, hsmall, ?_, ?_⟩
  · rcases matchCase_of_upperCamel h rule.template.toList with
      hsame | ⟨hupper, hcapitals⟩
    · left
      rw [hsame, htemplate, fillGroups_of_plain _ _ _ hplain,
        dropMarks_of_plain hplain]
    · right
      refine ⟨hupper, ?_⟩
      rw [hcapitals, htemplate, fillGroups_of_plain _ _ _ hplain',
        dropMarks_of_plain hplain']
  · intro _
    rw [← htemplate, String.ofList_toList]
    exact hmem

theorem continues_of_apply? (h : isUpperCamel word = true)
    (hrule : rule ∈ rulesInOrder) (happly : rule.apply? word = some out)
    (hne : out ≠ word) :
    ∃ kept gone ending, Continues word out kept gone ending := by
  obtain ⟨hends, hsmall, hkinds⟩ := keepsGroup_or_replacesAll rule hrule
  obtain ⟨m, hm, rfl⟩ := Option.map_eq_some_iff.mp happly
  obtain ⟨whole, groups, hmatch⟩ := Pattern.search_isMatch hm
  have hwhole : whole ⊆ word := hmatch.parts whole List.mem_cons_self
  have hsplit := hmatch.split
  rw [hmatch.after hends, List.append_nil] at hsplit
  rw [hmatch.recorded, hmatch.after hends, List.append_nil] at hne ⊢
  rcases hkinds with hback | hkeeps | hall
  · -- the match is put back as it was
    apply absurd _ hne
    rw [fill_of_putsBack
      (fun c hc => (nameChars_of_isUpperCamel h c (hwhole hc)).1) hback
      hmatch.wholeGroup, matchCase_part h hwhole, ← hsplit]
  · unfold keepsGroup at hkeeps
    rw [Bool.and_eq_true, Bool.or_eq_true, decide_eq_true_eq,
      decide_eq_true_eq] at hkeeps
    obtain ⟨hleads, htemplate⟩ := hkeeps
    obtain ⟨g, passed, hg, rfl, rfl⟩ := hmatch.leads hleads
    exact ⟨_, _, _, continues_of_keepsGroup h hsplit hg hsmall htemplate⟩
  · exact ⟨_, _, _, continues_of_replacesAll _ h hsplit hsmall hall⟩

end PluralRule

/-- Lower camel case tells such a plural from its word, unless nothing of the
word is kept. -/
theorem Continues.eq_capital {kept gone ending : List Char}
    (hout : Continues word out kept gone ending)
    (h : isUpperCamel word = true) (hne : out ≠ word)
    (hone : lowerCamel out = lowerCamel word) :
    ∃ w ∈ wholeTemplates, String.ofList word = capital w := by
  have hboth := nameChars_of_isUpperCamel h
  have hchars : ∀ c ∈ word, isNameChar c = true := fun c hc =>
    (hboth c hc).1
  have hendingChars : ∀ c ∈ ending, isNameChar c = true := fun c hc =>
    nameChar_of_isLower (hout.small c hc)
  rcases hout.plural with hplural | ⟨hupper, hplural⟩
  · cases kept with
    | nil =>
        rw [List.nil_append] at hplural
        rw [hplural] at hone
        exact ⟨_, hout.whole rfl, eq_capital_of_isLower h hout.small hone⟩
    | cons u kept =>
        -- both begin with the capital, so they are as different as before
        have hword : word = u :: (kept ++ gone) := hout.split
        have hplural : out = u :: (kept ++ ending) := hplural
        have hcamel : isUpperCamel out = true := by
          rw [hword, isUpperCamel, Bool.and_eq_true] at h
          rw [hplural, isUpperCamel, h.1, Bool.true_and]
          exact isCamelTail_append_small h.2 fun c hc =>
            isSmall_of_isLower (hout.small c hc)
        rw [hword] at h hone
        rw [hplural] at hcamel hone
        rw [lowerCamel_of_upperCamel h, lowerCamel_of_upperCamel hcamel,
          List.cons.injEq] at hone
        rw [hword, hplural, hone.2] at hne
        exact absurd rfl hne
  · -- in capitals, letter by letter, it is the word again
    have hkept : kept ⊆ word := fun c hc =>
      hout.split ▸ List.mem_append_left _ hc
    have hgone : gone ⊆ word := fun c hc =>
      hout.split ▸ List.mem_append_right _ hc
    have houtChars : ∀ c ∈ out, isNameChar c = true := by
      rw [hplural]
      exact List.forall_mem_append.mpr
        ⟨fun c hc => hchars c (hkept hc), nameChars_upper hendingChars⟩
    have hletters := letters_eq houtChars hchars hone
    rw [hplural, hout.split, letters_append, letters_append,
      List.append_cancel_left_eq, letters_upper hendingChars,
      letters_of_isLower hout.small,
      letters_of_alphanumeric fun c hc => (hboth c (hgone hc)).2] at hletters
    apply absurd _ hne
    rw [hplural, hletters, upper_lower_part hchars hupper hgone, ← hout.split]

end Rules

/-! ## §6. The names of this kind. -/

/-- The plurals of irregular words, and the one word that a rule for its
singular changes into itself, each with a capital in front. -/
def recasedNames : List String :=
  ("men" :: irregularPlurals.map Prod.snd).map capital

/-- Such a name is an irregular plural, or what a rule puts in the place of a
whole word, with a capital in front. -/
theorem eq_capital_of_recased {name : String} (h : UpperCamel name)
    (hrecased : Recased name) :
    (∃ e ∈ irregularPlurals, name = capital e.2) ∨
      ∃ w ∈ wholeTemplates, name = capital w := by
  obtain ⟨hne, hone⟩ := hrecased
  rw [← String.ofList_toList (s := name)]
  unfold pluralize at hne hone
  split at hne
  · next plural hplural =>
      rw [hplural] at hone
      exact .inl (eq_capital_of_irregular h hplural hne hone)
  · next hregular =>
      rw [hregular] at hone
      dsimp only at hne hone
      split at hne
      · exact absurd rfl hne
      · next hchanges =>
          rw [if_neg hchanges] at hone
          cases hfirst : rulesInOrder.findSome? fun r =>
              r.apply? name.toList with
          | none =>
              rw [hfirst] at hne
              exact absurd rfl hne
          | some out =>
              rw [hfirst] at hne hone
              obtain ⟨rule, hrule, happly⟩ :=
                List.exists_of_findSome?_eq_some hfirst
              obtain ⟨kept, gone, ending, hout⟩ :=
                PluralRule.continues_of_apply? h hrule happly hne
              exact .inr (hout.eq_capital h hne hone)

/-- Of the names in upper camel case those in the list, and no others, are one
with their plurals in lower camel case though not as written. -/
theorem recased_iff {name : String} (h : UpperCamel name) :
    Recased name ↔ name ∈ recasedNames := by
  constructor
  · intro hrecased
    rcases eq_capital_of_recased h hrecased with
      ⟨e, he, rfl⟩ | ⟨w, hw, rfl⟩
    · unfold recasedNames
      rw [List.mem_map]
      exact ⟨e.2, List.mem_cons_of_mem _ (List.mem_map.mpr ⟨e, he, rfl⟩), rfl⟩
    · -- the other templates are changed by other rules when they are words
      have hwhole : ∀ w ∈ wholeTemplates,
          capital w ∈ recasedNames ∨ ¬ Recased (capital w) := by
        decide +kernel
      exact (hwhole w hw).resolve_right fun hnot => hnot hrecased
  · intro hmem
    unfold recasedNames at hmem
    obtain ⟨w, hw, rfl⟩ := List.mem_map.mp hmem
    rcases List.mem_cons.mp hw with rfl | hw
    · decide +kernel
    · obtain ⟨e, he, rfl⟩ := List.mem_map.mp hw
      exact recased_of_irregular he

end SchemaTables.Text
