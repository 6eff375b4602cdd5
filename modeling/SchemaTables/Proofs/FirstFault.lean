/-
  SchemaTables.Proofs.FirstFault
  ──────────────────────────────
  **THE FIRST FAULT ALONG A LIST OF CHECKS.**

  Documents are checked in several passes, and the first fault is the answer.
  Here `V c x` says that the check `c` finds the fault `x`, whatever a check
  is.  A computation reports a list of checks if it fails with the first fault
  along them and with nothing else:

      Reports V cs r   =   ∀ x, r = .error x ↔ FirstFault V cs x

  What two parts report, the one after the other reports in this order
  (`Reports.bind`), and so does a loop for what its steps report
  (`Reports.forM`, `Reports.foldlM`).
-/
import SchemaTables.Proofs.Steps

namespace SchemaTables

variable {ε σ α β γ : Type} {V : γ → ε → Prop} {c : γ} {cs ds : List γ}
  {x : ε}

/-! ## §1. Faults. -/

/-- None of the checks finds a fault. -/
def Faultless (V : γ → ε → Prop) (cs : List γ) : Prop :=
  ∀ c ∈ cs, ∀ x, ¬ V c x

/-- The fault `x` is found by one of the checks, and the checks before it
find none. -/
def FirstFault (V : γ → ε → Prop) (cs : List γ) (x : ε) : Prop :=
  ∃ before c after, cs = before ++ c :: after ∧ Faultless V before ∧ V c x

theorem faultless_nil : Faultless V [] := by
  intro c hc
  cases hc

theorem faultless_cons :
    Faultless V (c :: cs) ↔ (∀ x, ¬ V c x) ∧ Faultless V cs :=
  List.forall_mem_cons

theorem not_firstFault_nil : ¬ FirstFault V [] x := by
  intro hx
  obtain ⟨before, c, after, hsplit, -⟩ := hx
  cases before <;> cases hsplit

theorem firstFault_cons :
    FirstFault V (c :: cs) x ↔
      V c x ∨ (∀ y, ¬ V c y) ∧ FirstFault V cs x := by
  constructor
  · intro hx
    obtain ⟨before, c', after, hsplit, hbefore, hc⟩ := hx
    cases before with
    | nil =>
        cases hsplit
        exact .inl hc
    | cons b before =>
        cases hsplit
        obtain ⟨hb, hbefore⟩ := faultless_cons.mp hbefore
        exact .inr ⟨hb, before, c', after, rfl, hbefore, hc⟩
  · intro hx
    rcases hx with hc | ⟨hclean, before, c', after, rfl, hbefore, hc⟩
    · exact ⟨[], c, cs, rfl, faultless_nil, hc⟩
    · exact ⟨c :: before, c', after, rfl,
        faultless_cons.mpr ⟨hclean, hbefore⟩, hc⟩

/-- Either there is no fault or there is a first one. -/
theorem faultless_iff : Faultless V cs ↔ ∀ x, ¬ FirstFault V cs x := by
  induction cs with
  | nil => exact ⟨fun _ _ => not_firstFault_nil, fun _ => faultless_nil⟩
  | cons c cs ih =>
      rw [faultless_cons, ih]
      constructor
      · intro hclean x hx
        rcases firstFault_cons.mp hx with hc | ⟨-, hrest⟩
        · exact hclean.1 x hc
        · exact hclean.2 x hrest
      · intro hnone
        have hc : ∀ x, ¬ V c x := fun x hc =>
          hnone x (firstFault_cons.mpr (.inl hc))
        exact ⟨hc, fun x hx =>
          hnone x (firstFault_cons.mpr (.inr ⟨hc, hx⟩))⟩

/-- Of two lists, the second counts where the first has no fault. -/
theorem firstFault_append :
    FirstFault V (cs ++ ds) x ↔
      FirstFault V cs x ∨ Faultless V cs ∧ FirstFault V ds x := by
  induction cs with
  | nil =>
      rw [List.nil_append]
      constructor
      · intro hx
        exact .inr ⟨faultless_nil, hx⟩
      · intro hx
        rcases hx with hx | ⟨-, hx⟩
        · exact absurd hx not_firstFault_nil
        · exact hx
  | cons c cs ih =>
      rw [List.cons_append, firstFault_cons, firstFault_cons, faultless_cons,
        ih]
      tauto

/-! ## §2. Reporting. -/

/-- The computation fails with the first fault along the checks, and with
nothing else. -/
def Reports (V : γ → ε → Prop) (cs : List γ) (r : Except ε α) : Prop :=
  ∀ x, r = .error x ↔ FirstFault V cs x

namespace Reports

variable {r : Except ε α} {a : α}

/-- Without a fault there is a result. -/
theorem ok_iff (h : Reports V cs r) :
    (∃ a, r = .ok a) ↔ Faultless V cs := by
  rw [faultless_iff]
  constructor
  · intro hx x hfault
    obtain ⟨a, ha⟩ := hx
    rw [(h x).mpr hfault] at ha
    cases ha
  · intro hclean
    cases hr : r with
    | error x => exact absurd ((h x).mp hr) (hclean x)
    | ok a => exact ⟨a, rfl⟩

theorem ofOk : Reports V [] (.ok a : Except ε α) := by
  intro x
  constructor
  · intro hx
    cases hx
  · intro hx
    exact absurd hx not_firstFault_nil

/-- One check is reported by what fails just as it finds. -/
theorem single (h : ∀ x, r = .error x ↔ V c x) : Reports V [c] r := by
  intro x
  rw [h, firstFault_cons]
  constructor
  · exact .inl
  · intro hx
    rcases hx with hx | ⟨-, hx⟩
    · exact hx
    · exact absurd hx not_firstFault_nil

/-- One part after the other reports the checks of both. -/
theorem bind {next : α → Except ε β} (h : Reports V cs r)
    (hnext : ∀ a, r = .ok a → Reports V ds (next a)) :
    Reports V (cs ++ ds) (r >>= next) := by
  intro x
  rw [bind_eq_error, firstFault_append, h x, ← h.ok_iff]
  constructor
  · intro hx
    rcases hx with hx | ⟨a, ha, hx⟩
    · exact .inl hx
    · exact .inr ⟨⟨a, ha⟩, (hnext a ha x).mp hx⟩
  · intro hx
    rcases hx with hx | ⟨⟨a, ha⟩, hx⟩
    · exact .inl hx
    · exact .inr ⟨a, ha, (hnext a ha x).mpr hx⟩

/-- What is done with a result finds no further fault. -/
theorem map (h : Reports V cs r) (g : α → β) :
    Reports V cs (do let a ← r; return g a) := by
  have hbind : Reports V (cs ++ []) (r >>= fun a => .ok (g a)) :=
    h.bind fun _ _ => ofOk
  rw [List.append_nil] at hbind
  exact hbind

end Reports

/-! ## §3. Loops. -/

/-- Each element of a list, with those before it; `done` stands before all of
them. -/
def withEarlier (done : List α) : List α → List (List α × α)
  | [] => []
  | a :: rest => (done, a) :: withEarlier (done ++ [a]) rest

/-- What does not depend on those before is as along the list. -/
theorem map_withEarlier (g : α → β) :
    ∀ rest done : List α,
      ((withEarlier done rest).map fun p => g p.2) = rest.map g
  | [], _ => rfl
  | a :: rest, done => by
      rw [withEarlier, List.map_cons, List.map_cons, map_withEarlier g rest]

/-- A loop reports what its rounds report; `cs b` are the checks of the round
for the element that belongs to `b`. -/
theorem Reports.forM {cs : β → List γ} {f : α → Except ε Unit} {as : List α}
    {bs : List β}
    (h : List.Forall₂ (fun b a => Reports V (cs b) (f a)) bs as) :
    Reports V (bs.flatMap cs) (as.forM f) := by
  induction h with
  | nil => exact ofOk
  | @cons b a bs as hround _ ih =>
      rw [List.flatMap_cons]
      show Reports V _ (f a >>= fun _ => as.forM f)
      exact hround.bind fun _ _ => ih

/-- A fold reports what its steps report, where the state is one that `I`
allows after the elements that are done. -/
theorem Reports.foldlM {f : σ → α → Except ε σ} (I : List α → σ → Prop)
    (check : List α → α → γ)
    (keep : ∀ done a s s', I done s → f s a = .ok s' → I (done ++ [a]) s')
    (fault : ∀ done a s, I done s →
      ∀ x, f s a = .error x ↔ V (check done a) x) :
    ∀ (rest done : List α) (s : σ), I done s →
      Reports V ((withEarlier done rest).map fun p => check p.1 p.2)
        (rest.foldlM f s) := by
  intro rest
  induction rest with
  | nil => intro done s _; exact ofOk
  | cons a rest ih =>
      intro done s hs
      rw [List.foldlM_cons, withEarlier, List.map_cons]
      -- one check for this step, and the others from where it leads
      exact (single (fault done a s hs)).bind fun s' hs' =>
        ih (done ++ [a]) s' (keep done a s s' hs hs')

end SchemaTables
