/-
  SchemaTables.Proofs.Text.CamelCase
  ──────────────────────────────────
  **LOWER CAMEL CASE OF UPPER CAMEL CASE.**

  Writing a name in lower camel case forgets much: `Book` and `book` become
  one name, as do `HTTPServer` and `HttpServer`.  Of a name in upper camel
  case it changes the first letter only (`lowerCamel_of_upperCamel`), and of
  one that would be in upper camel case but for its first letter it changes
  nothing.  So two names of these forms become one just if they are one with a
  capital in front (`lowerCamelCase_eq_iff`).

  A name in upper camel case is made of words that each begin with a capital
  and go on with small letters and digits.  A word that another one follows
  has a small letter, since capitals in a row are one word.
-/
import SchemaTables.Text.Words

namespace SchemaTables.Text

/-! ## §1. Upper camel case. -/

/-- Is this a small letter or a digit? -/
def isSmall (c : Char) : Bool := c.isLower || c.isDigit

/-- Does this go on with a name in upper camel case?  The word before it
has a small letter if `small`. -/
def isCamelTail (small : Bool) : List Char → Bool
  | [] => true
  | c :: rest =>
      if c.isUpper then small && isCamelTail false rest
      else isSmall c && isCamelTail (small || c.isLower) rest

/-- Is this a name in upper camel case? -/
def isUpperCamel : List Char → Bool
  | [] => false
  | c :: rest => c.isUpper && isCamelTail false rest

/-- The name is in upper camel case. -/
def UpperCamel (name : String) : Prop := isUpperCamel name.toList = true

instance (name : String) : Decidable (UpperCamel name) :=
  inferInstanceAs (Decidable (isUpperCamel name.toList = true))

/-- The name with a capital in front. -/
def capital (name : String) : String :=
  match name.toList with
  | [] => ""
  | c :: rest => String.ofList (c.toUpper :: rest)

/-! ## §2. Capitals, small letters and digits. -/

section Ascii

variable {c u : Char}

/-- What holds of the first 128 characters holds of each that is among
them. -/
theorem forall_ascii {p : Char → Bool}
    (h : ∀ n : Fin 128, p (Char.ofNat n) = true) (hc : c.toNat < 128) :
    p c = true := by
  have hn := h ⟨c.toNat, hc⟩
  rwa [Char.ofNat_toNat] at hn

theorem toNat_lt_of_isUpper (h : u.isUpper = true) : u.toNat < 128 := by
  have hle : u.toNat ≤ 90 := (of_decide_eq_true h).2
  omega

theorem toNat_lt_of_isSmall (h : isSmall c = true) : c.toNat < 128 := by
  unfold isSmall at h
  rw [Bool.or_eq_true] at h
  rcases h with h | h
  · have hle : c.toNat ≤ 122 :=
      of_decide_eq_true (Bool.and_eq_true_iff.mp h).2
    omega
  · have hle : c.toNat ≤ 57 :=
      of_decide_eq_true (Bool.and_eq_true_iff.mp h).2
    omega

/-- What the case of a capital is. -/
structure IsCapital (u : Char) : Prop where
  alphanumeric : isAlphanumeric u = true
  uppercase : isUppercase u = true
  not_lowercase : isLowercase u = false
  lowerChar : lowerChar u = [u.toLower]
  upperChar : upperChar u = [u]
  toUpper_toLower : u.toLower.toUpper = u

theorem isCapital_of_isUpper (h : u.isUpper = true) : IsCapital u := by
  have hall := forall_ascii (c := u) (p := fun c => !c.isUpper ||
    (isAlphanumeric c && isUppercase c && !isLowercase c &&
      lowerChar c = [c.toLower] && upperChar c = [c] &&
      c.toLower.toUpper = c)) (by decide +kernel) (toNat_lt_of_isUpper h)
  simp only [h, Bool.not_true, Bool.false_or, Bool.and_eq_true,
    Bool.not_eq_true', decide_eq_true_eq] at hall
  obtain ⟨⟨⟨⟨⟨halpha, hupper⟩, hlower⟩, hlow⟩, hup⟩, hback⟩ := hall
  exact ⟨halpha, hupper, hlower, hlow, hup, hback⟩

/-- What the case of a small letter or a digit is. -/
structure IsLittle (c : Char) : Prop where
  alphanumeric : isAlphanumeric c = true
  not_uppercase : isUppercase c = false
  lowercase : isLowercase c = c.isLower
  lowerChar : lowerChar c = [c]

theorem isLittle_of_isSmall (h : isSmall c = true) : IsLittle c := by
  have hall := forall_ascii (c := c) (p := fun c => !isSmall c ||
    (isAlphanumeric c && !isUppercase c && isLowercase c = c.isLower &&
      lowerChar c = [c])) (by decide +kernel) (toNat_lt_of_isSmall h)
  simp only [h, Bool.not_true, Bool.false_or, Bool.and_eq_true,
    Bool.not_eq_true', decide_eq_true_eq] at hall
  obtain ⟨⟨⟨halpha, hupper⟩, hlower⟩, hlow⟩ := hall
  exact ⟨halpha, hupper, hlower, hlow⟩

/-- What is small is no capital. -/
theorem not_isUpper_of_isSmall (h : isSmall c = true) : c.isUpper = false := by
  have hall := forall_ascii (c := c) (p := fun c => !isSmall c || !c.isUpper)
    (by decide +kernel) (toNat_lt_of_isSmall h)
  simpa [h] using hall

theorem toLower_toUpper_of_isLower (h : c.isLower = true) :
    c.toUpper.toLower = c := by
  have hsmall : isSmall c = true := by simp [isSmall, h]
  have hall := forall_ascii (c := c)
    (p := fun c => !c.isLower || c.toUpper.toLower = c) (by decide +kernel)
    (toNat_lt_of_isSmall hsmall)
  simpa [h] using hall

theorem isUpper_toUpper_of_isLower (h : c.isLower = true) :
    c.toUpper.isUpper = true := by
  have hsmall : isSmall c = true := by simp [isSmall, h]
  have hall := forall_ascii (c := c)
    (p := fun c => !c.isLower || c.toUpper.isUpper) (by decide +kernel)
    (toNat_lt_of_isSmall hsmall)
  simpa [h] using hall

theorem toUpper_of_not_isLower (h : ¬ c.isLower = true) : c.toUpper = c := by
  unfold Char.toUpper
  unfold Char.isLower at h
  rw [Bool.and_eq_true, decide_eq_true_eq, decide_eq_true_eq] at h
  exact dif_neg h

/-- There is a special rule for the capital sigma, which is no such
character. -/
theorem ne_capitalSigma (h : c.toNat < 128) : c ≠ capitalSigma := by
  intro heq
  rw [heq] at h
  exact absurd h (by decide)

end Ascii

section Tails

variable {small : Bool} {cs ds : List Char}

theorem isCamelTail_of_small (h : ∀ c ∈ cs, isSmall c = true) :
    isCamelTail small cs = true := by
  induction cs generalizing small with
  | nil => rfl
  | cons c cs ih =>
      have hc := h c List.mem_cons_self
      rw [isCamelTail, not_isUpper_of_isSmall hc, if_neg (by simp), hc,
        Bool.true_and]
      exact ih fun x hx => h x (List.mem_cons_of_mem c hx)

/-- More may follow on a small letter than on none. -/
theorem isCamelTail_of_false (h : isCamelTail false cs = true) :
    isCamelTail small cs = true := by
  induction cs generalizing small with
  | nil => rfl
  | cons c cs ih =>
      rw [isCamelTail] at h ⊢
      split at h
      · cases h
      · next hc =>
          rw [Bool.false_or, Bool.and_eq_true] at h
          rw [if_neg hc, h.1, Bool.true_and]
          cases hlower : c.isLower with
          | true =>
              rw [hlower] at h
              rw [Bool.or_true]
              exact h.2
          | false =>
              rw [hlower] at h
              exact ih h.2

/-- A name may stop anywhere, and go on with small letters there. -/
theorem isCamelTail_append_small (h : isCamelTail small (cs ++ ds) = true)
    {small' : List Char} (hsmall : ∀ c ∈ small', isSmall c = true) :
    isCamelTail small (cs ++ small') = true := by
  induction cs generalizing small with
  | nil => exact isCamelTail_of_small hsmall
  | cons c cs ih =>
      rw [List.cons_append, isCamelTail] at h ⊢
      split at h
      · next hc =>
          rw [Bool.and_eq_true] at h
          rw [if_pos hc, h.1, Bool.true_and]
          exact ih h.2
      · next hc =>
          rw [Bool.and_eq_true] at h
          rw [if_neg hc, h.1, Bool.true_and]
          exact ih h.2

theorem forall_of_isCamelTail (h : isCamelTail small cs = true) :
    ∀ c ∈ cs, c.isUpper = true ∨ isSmall c = true := by
  induction cs generalizing small with
  | nil => simp
  | cons c cs ih =>
      rw [isCamelTail] at h
      intro x hx
      split at h
      · next hc =>
          rw [Bool.and_eq_true] at h
          rcases List.mem_cons.mp hx with rfl | hx
          · exact .inl hc
          · exact ih h.2 x hx
      · rw [Bool.and_eq_true] at h
        rcases List.mem_cons.mp hx with rfl | hx
        · exact .inr h.1
        · exact ih h.2 x hx

theorem forall_of_isUpperCamel (h : isUpperCamel cs = true) :
    ∀ c ∈ cs, c.isUpper = true ∨ isSmall c = true := by
  cases cs with
  | nil => cases h
  | cons u cs =>
      rw [isUpperCamel, Bool.and_eq_true] at h
      intro c hc
      rcases List.mem_cons.mp hc with rfl | hc
      · exact .inl h.1
      · exact forall_of_isCamelTail h.2 c hc

end Tails

/-! ## §3. The words of a name in upper camel case. -/

/-- A capital, then small letters and digits. -/
def IsHump (w : List Char) : Prop :=
  ∃ u t, w = u :: t ∧ u.isUpper = true ∧ ∀ c ∈ t, isSmall c = true

/-- A word in small letters and digits stays as it is. -/
theorem lowerWord_of_small :
    ∀ {w : List Char}, (∀ c ∈ w, isSmall c = true) → lowerWord w = w
  | [], _ => rfl
  | [c], h => by
      have hc := h c List.mem_cons_self
      rw [lowerWord, if_neg (ne_capitalSigma (toNat_lt_of_isSmall hc)),
        (isLittle_of_isSmall hc).lowerChar]
  | c :: d :: rest, h => by
      have hrest := lowerWord_of_small fun x hx =>
        h x (List.mem_cons_of_mem c hx)
      have hc := h c List.mem_cons_self
      rw [lowerWord, hrest, (isLittle_of_isSmall hc).lowerChar]
      · rfl
      · simp

/-- A hump in lower case. -/
theorem lowerWord_hump {u : Char} {t : List Char} (hu : u.isUpper = true)
    (ht : ∀ c ∈ t, isSmall c = true) :
    lowerWord (u :: t) = u.toLower :: t := by
  have hlow := (isCapital_of_isUpper hu).lowerChar
  cases t with
  | nil =>
      rw [lowerWord, if_neg (ne_capitalSigma (toNat_lt_of_isUpper hu)), hlow]
  | cons c t =>
      rw [lowerWord, lowerWord_of_small ht, hlow]
      · rfl
      · simp

/-- A hump is written with a capital already. -/
theorem capitalWord_hump {w : List Char} (h : IsHump w) :
    capitalWord w = w := by
  obtain ⟨u, t, rfl, hu, ht⟩ := h
  rw [capitalWord, lowerWord_of_small ht,
    (isCapital_of_isUpper hu).upperChar]
  rfl

/-- The words of what goes on with a name: `c` belongs to the current word,
which has a small letter by then if `small`. -/
theorem wordsFrom_camelTail :
    ∀ (cs word : List Char) {small : Bool} {tail : WordTail} {c : Char},
      isCamelTail small cs = true →
      isAlphanumeric c = true →
      tail.push c = (if small then .lower else .upper) →
      (tail = .upper → isUppercase c = false) →
      ∃ t ws, wordsFrom tail word (c :: cs) =
          (word.reverse ++ c :: t) :: ws ∧
        cs = t ++ ws.flatten ∧ (∀ x ∈ t, isSmall x = true) ∧
        ∀ w ∈ ws, IsHump w
  | [], word, small, tail, c, _, hc, _, _ => by
      refine ⟨[], [], ?_, rfl, by simp, by simp⟩
      simp [wordsFrom, hc, consWord]
  | d :: rest, word, small, tail, c, h, hc, hpush, hupper => by
      rw [isCamelTail] at h
      have hrule : (decide (tail = .upper) && isUppercase c) = false := by
        rw [Bool.and_eq_false_imp, decide_eq_true_eq]
        exact hupper
      by_cases hd : d.isUpper = true
      · -- a capital begins the next word
        rw [if_pos hd, Bool.and_eq_true] at h
        obtain ⟨hsmall, hrest⟩ := h
        have hcap := isCapital_of_isUpper hd
        have hfresh : WordTail.fresh.push d = .upper := by
          simp [WordTail.push, hcap.not_lowercase, hcap.uppercase]
        obtain ⟨t, ws, hwords, hsplit, ht, hws⟩ :=
          wordsFrom_camelTail rest [] hrest hcap.alphanumeric hfresh
            (fun heq => by cases heq)
        refine ⟨[], (d :: t) :: ws, ?_, ?_, by simp, ?_⟩
        · rw [wordsFrom, hc]
          simp only [Bool.not_true, List.head?_cons]
          rw [hpush, hsmall, hcap.uppercase, hwords]
          simp [consWord]
        · rw [hsplit]
          rfl
        · intro w hw
          rcases List.mem_cons.mp hw with rfl | hw
          · exact ⟨d, t, rfl, hd, ht⟩
          · exact hws w hw
      · -- anything else goes on with the word
        rw [if_neg hd, Bool.and_eq_true] at h
        obtain ⟨hd, hrest⟩ := h
        have hlittle := isLittle_of_isSmall hd
        have hnext : (tail.push c).push d =
            if small || d.isLower then .lower else .upper := by
          unfold WordTail.push at hpush ⊢
          rw [hlittle.not_uppercase, hlittle.lowercase, hpush]
          cases small <;> cases d.isLower <;> rfl
        obtain ⟨t, ws, hwords, hsplit, ht, hws⟩ :=
          wordsFrom_camelTail rest (c :: word) hrest hlittle.alphanumeric
            hnext (fun _ => hlittle.not_uppercase)
        refine ⟨d :: t, ws, ?_, ?_, ?_, hws⟩
        · rw [wordsFrom, hc]
          simp only [Bool.not_true, List.head?_cons]
          rw [hlittle.not_uppercase, hrule, hwords]
          simp
        · rw [hsplit]
          rfl
        · intro x hx
          rcases List.mem_cons.mp hx with rfl | hx
          · exact hd
          · exact ht x hx

/-! ## §4. Writing it in lower camel case. -/

/-- Only the first word changes. -/
theorem lowerCamel_of_camelTail {small : Bool} {c l : Char} {cs : List Char}
    (hcs : isCamelTail small cs = true) (hc : isAlphanumeric c = true)
    (hpush : WordTail.fresh.push c = if small then .lower else .upper)
    (hlower : ∀ t : List Char, (∀ x ∈ t, isSmall x = true) →
      lowerWord (c :: t) = l :: t) :
    lowerCamel (c :: cs) = l :: cs := by
  obtain ⟨t, ws, hwords, hsplit, ht, hws⟩ :=
    wordsFrom_camelTail cs [] hcs hc hpush (fun heq => by cases heq)
  have hothers : ws.flatMap capitalWord = ws.flatten := by
    rw [List.flatMap_def, List.map_congr_left fun w hw =>
      capitalWord_hump (hws w hw), List.map_id']
  unfold lowerCamel words
  rw [hwords]
  show lowerWord (c :: t) ++ ws.flatMap capitalWord = _
  rw [hlower t ht, hothers, hsplit]
  rfl

theorem lowerCamel_of_upperCamel {u : Char} {cs : List Char}
    (h : isUpperCamel (u :: cs) = true) :
    lowerCamel (u :: cs) = u.toLower :: cs := by
  rw [isUpperCamel, Bool.and_eq_true] at h
  obtain ⟨hu, hcs⟩ := h
  have hcap := isCapital_of_isUpper hu
  have hfresh : WordTail.fresh.push u = .upper := by
    simp [WordTail.push, hcap.not_lowercase, hcap.uppercase]
  exact lowerCamel_of_camelTail hcs hcap.alphanumeric hfresh
    fun t => lowerWord_hump hu

/-- A name that begins with a small letter stays as it is. -/
theorem lowerCamel_of_isLower {l : Char} {cs : List Char}
    (hl : l.isLower = true) (hcs : isCamelTail true cs = true) :
    lowerCamel (l :: cs) = l :: cs := by
  have hsmall : isSmall l = true := by simp [isSmall, hl]
  have hlittle := isLittle_of_isSmall hsmall
  have hfresh : WordTail.fresh.push l = .lower := by
    simp [WordTail.push, hlittle.lowercase, hl]
  refine lowerCamel_of_camelTail hcs hlittle.alphanumeric hfresh ?_
  intro t ht
  exact lowerWord_of_small (List.forall_mem_cons.mpr ⟨hsmall, ht⟩)

/-- A name in upper camel case has its capital. -/
theorem capital_of_upperCamel {name : String} (h : UpperCamel name) :
    capital name = name := by
  unfold UpperCamel at h
  unfold capital
  rw [← String.toList_inj]
  cases hname : name.toList with
  | nil =>
      rw [hname] at h
      cases h
  | cons u cs =>
      rw [hname, isUpperCamel, Bool.and_eq_true] at h
      have hsame : u.toUpper = u := by
        apply toUpper_of_not_isLower
        intro hlower
        rw [not_isUpper_of_isSmall (by simp [isSmall, hlower])] at h
        cases h.1
      dsimp only
      rw [hsame, String.toList_ofList]

/-- A capital in front makes no difference. -/
theorem lowerCamelCase_capital {name : String}
    (h : UpperCamel (capital name)) :
    lowerCamelCase (capital name) = lowerCamelCase name := by
  unfold UpperCamel capital at h
  unfold capital lowerCamelCase
  cases hname : name.toList with
  | nil =>
      rw [hname] at h
      cases h
  | cons c cs =>
      rw [hname] at h
      dsimp only at h ⊢
      rw [String.toList_ofList] at h ⊢
      have hc : c.toUpper.isUpper = true ∧ isCamelTail false cs = true := by
        rw [isUpperCamel, Bool.and_eq_true] at h
        exact h
      rw [String.ofList_inj, lowerCamel_of_upperCamel h]
      by_cases hlower : c.isLower = true
      · have hback := toLower_toUpper_of_isLower hlower
        rw [lowerCamel_of_isLower hlower (isCamelTail_of_false hc.2), hback]
      · have hsame : c.toUpper = c := toUpper_of_not_isLower hlower
        rw [hsame] at h ⊢
        rw [lowerCamel_of_upperCamel h]

/-- Names in upper camel case are the same if they are in lower camel
case. -/
theorem eq_of_lowerCamelCase {a b : String} (ha : UpperCamel a)
    (hb : UpperCamel b) (h : lowerCamelCase a = lowerCamelCase b) :
    a = b := by
  unfold lowerCamelCase at h
  rw [String.ofList_inj] at h
  rw [← String.toList_inj]
  unfold UpperCamel at ha hb
  generalize a.toList = cs, b.toList = ds at ha hb h
  cases cs with
  | nil => cases ha
  | cons u cs =>
      cases ds with
      | nil => cases hb
      | cons v ds =>
          rw [lowerCamel_of_upperCamel ha, lowerCamel_of_upperCamel hb,
            List.cons.injEq] at h
          obtain ⟨hfirst, rfl⟩ := h
          rw [isUpperCamel, Bool.and_eq_true] at ha hb
          -- the first letter was a capital in both
          have hu := (isCapital_of_isUpper ha.1).toUpper_toLower
          have hv := (isCapital_of_isUpper hb.1).toUpper_toLower
          rw [← hu, ← hv, hfirst]

/-- Names that are in upper camel case with a capital in front become one in
lower camel case just if they are one with it. -/
theorem lowerCamelCase_eq_iff {a b : String} (ha : UpperCamel (capital a))
    (hb : UpperCamel (capital b)) :
    lowerCamelCase a = lowerCamelCase b ↔ capital a = capital b := by
  rw [← lowerCamelCase_capital ha, ← lowerCamelCase_capital hb]
  constructor
  · exact eq_of_lowerCamelCase ha hb
  · exact congrArg lowerCamelCase

end SchemaTables.Text
