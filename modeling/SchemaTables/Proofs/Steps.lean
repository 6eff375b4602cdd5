/-
  SchemaTables.Proofs.Steps
  ─────────────────────────
  **RUNS OF STEPS THAT CAN FAIL.**

  A schema is stored by folding a step that may fail over a list.  What every
  step keeps, a run keeps (`foldlM_invariant`); the invariant may depend on
  the part of the list that is already done.  A step that fails is the answer
  of the whole run (`foldlM_stops`), and a run fails in no other way
  (`foldlM_eq_error`).

  Where every step fails for reasons of one kind only, so does the whole
  (`FailsAs`).
-/
import Mathlib.Data.List.Forall2

namespace SchemaTables

variable {ε σ α β : Type}

/-! ## §1. One step after another. -/

/-- Two steps succeed when the first does and the second does on its
result. -/
theorem bind_eq_ok {r : Except ε α} {next : α → Except ε β} {b : β} :
    (r >>= next) = .ok b ↔ ∃ a, r = .ok a ∧ next a = .ok b := by
  unfold bind
  cases r <;> simp [Monad.toBind, Except.instMonad, Except.bind]

/-- Two steps fail when the first does or the second does on its result. -/
theorem bind_eq_error {r : Except ε α} {next : α → Except ε β} {x : ε} :
    (r >>= next) = .error x ↔
      r = .error x ∨ ∃ a, r = .ok a ∧ next a = .error x := by
  unfold bind
  cases r <;> simp [Monad.toBind, Except.instMonad, Except.bind]

theorem bind_of_ok {r : Except ε α} {a : α} (h : r = .ok a)
    (next : α → Except ε β) : (r >>= next) = next a := by
  rw [h]
  rfl

theorem map_eq_ok {g : α → β} {r : Except ε α} {b : β} :
    r.map g = .ok b ↔ ∃ a, r = .ok a ∧ g a = b := by
  cases r <;> simp [Except.map]

/-- What is done with a result changes no error. -/
theorem map_eq_error {g : α → β} {r : Except ε α} {x : ε} :
    r.map g = .error x ↔ r = .error x := by
  cases r <;> simp [Except.map]

theorem toOption_eq_some {r : Except ε α} {a : α} :
    r.toOption = some a ↔ r = .ok a := by
  cases r <;> simp [Except.toOption]

/-- Errors may be changed after two steps, or after each of them. -/
theorem mapError_bind {ε' : Type} (g : ε → ε') (r : Except ε α)
    (next : α → Except ε β) :
    (r >>= next).mapError g =
      (r.mapError g >>= fun a => (next a).mapError g) := by
  cases r <;> rfl

/-! ## §2. Lists side by side. -/

theorem exists_right_of_forall₂ {R : α → β → Prop} {as : List α}
    {bs : List β} (h : List.Forall₂ R as bs) : ∀ a ∈ as, ∃ b ∈ bs, R a b := by
  induction h with
  | nil => intro a ha; cases ha
  | cons hab _ ih =>
      intro a ha
      rcases List.mem_cons.mp ha with rfl | ha
      · exact ⟨_, List.mem_cons_self, hab⟩
      · obtain ⟨b, hb, hR⟩ := ih a ha
        exact ⟨b, List.mem_cons_of_mem _ hb, hR⟩

theorem exists_left_of_forall₂ {R : α → β → Prop} {as : List α}
    {bs : List β} (h : List.Forall₂ R as bs) : ∀ b ∈ bs, ∃ a ∈ as, R a b :=
  exists_right_of_forall₂ h.flip

theorem getElem?_left_of_forall₂ {R : α → β → Prop} {as : List α}
    {bs : List β} (h : List.Forall₂ R as bs) :
    ∀ {i : Nat} {b : β}, bs[i]? = some b → ∃ a, as[i]? = some a ∧ R a b := by
  induction h with
  | nil => intro i b hb; cases hb
  | @cons a b as bs hab _ ih =>
      intro i b hb
      cases i with
      | zero =>
          cases hb
          exact ⟨a, rfl, hab⟩
      | succ i => exact ih hb

theorem exists_of_map_eq {g : α → β} {as : List α} {bs : List β}
    (h : as.map g = bs) {b : β} (hb : b ∈ bs) : ∃ a ∈ as, g a = b := by
  rw [← h] at hb
  exact List.mem_map.mp hb

/-- Where two functions agree side by side, they pick out the same. -/
theorem filterMap_eq_of_forall₂ {γ : Type} {F : α → Option γ}
    {G : β → Option γ} {as : List α} {bs : List β}
    (h : List.Forall₂ (fun a b => F a = G b) as bs) :
    as.filterMap F = bs.filterMap G := by
  induction h with
  | nil => rfl
  | cons hab _ ih => rw [List.filterMap_cons, List.filterMap_cons, hab, ih]

/-- A function that is defined on all elements gives a list side by side. -/
theorem forall₂_filterMap {R : α → β → Prop} {F : α → Option β} :
    ∀ {as : List α}, (∀ a ∈ as, ∃ b, F a = some b ∧ R a b) →
      List.Forall₂ R as (as.filterMap F)
  | [], _ => .nil
  | a :: as, h => by
      obtain ⟨b, hb, hR⟩ := h a List.mem_cons_self
      rw [List.filterMap_cons, hb]
      exact .cons hR (forall₂_filterMap fun a' ha' =>
        h a' (List.mem_cons_of_mem _ ha'))

/-- What is made element by element is what the function picks out. -/
theorem eq_filterMap_of_forall₂ {F : α → Option β} {as : List α}
    {bs : List β} (h : List.Forall₂ (fun a b => F a = some b) as bs) :
    bs = as.filterMap F := by
  rw [filterMap_eq_of_forall₂ h, List.filterMap_some]

/-! ## §3. Runs. -/

/-- The invariant `P done s` carried from `done` over the rest of the list. -/
theorem foldlM_invariant_from {f : σ → α → Except ε σ}
    (P : List α → σ → Prop) (as : List α)
    (step : ∀ done a s s', (∃ rest, as = done ++ a :: rest) →
      P done s → f s a = .ok s' → P (done ++ [a]) s') :
    ∀ (rest done : List α) (s s' : σ), as = done ++ rest → P done s →
      rest.foldlM f s = .ok s' → P as s' := by
  intro rest
  induction rest with
  | nil =>
      intro done s s' has hP run
      rw [List.foldlM_nil] at run
      cases run
      rw [has, List.append_nil]
      exact hP
  | cons a rest ih =>
      intro done s s' has hP run
      rw [List.foldlM_cons, bind_eq_ok] at run
      obtain ⟨s₁, hstep, run⟩ := run
      have hnext : P (done ++ [a]) s₁ :=
        step done a s s₁ ⟨rest, has⟩ hP hstep
      -- what is done has grown by the element just handled
      exact ih (done ++ [a]) s₁ s' (by simp [has]) hnext run

/-- What every step keeps holds after the run. -/
theorem foldlM_invariant {f : σ → α → Except ε σ}
    (P : List α → σ → Prop) {as : List α} {s s' : σ} (start : P [] s)
    (step : ∀ done a s s', (∃ rest, as = done ++ a :: rest) →
      P done s → f s a = .ok s' → P (done ++ [a]) s')
    (run : as.foldlM f s = .ok s') : P as s' :=
  foldlM_invariant_from P as step as [] s s' rfl start run

/-- A run that reaches a failing step fails as the step does. -/
theorem foldlM_stops {f : σ → α → Except ε σ} {done rest : List α} {a : α}
    {s s₁ : σ} {e : ε} (run : done.foldlM f s = .ok s₁)
    (fails : f s₁ a = .error e) :
    (done ++ a :: rest).foldlM f s = .error e := by
  rw [List.foldlM_append, run]
  show (f s₁ a >>= fun s₂ => rest.foldlM f s₂) = .error e
  rw [fails]
  rfl

/-- A run that fails does so at a step that it reaches. -/
theorem foldlM_eq_error {f : σ → α → Except ε σ} {e : ε} :
    ∀ {as : List α} {s : σ}, as.foldlM f s = .error e →
      ∃ done a rest s₁, as = done ++ a :: rest ∧
        done.foldlM f s = .ok s₁ ∧ f s₁ a = .error e
  | [], s, h => by cases h
  | a :: rest, s, h => by
      rw [List.foldlM_cons, bind_eq_error] at h
      rcases h with h | ⟨s₁, hstep, h⟩
      · exact ⟨[], a, rest, s, rfl, rfl, h⟩
      · obtain ⟨done, b, rest', s₂, rfl, hrun, hfail⟩ := foldlM_eq_error h
        refine ⟨a :: done, b, rest', s₂, rfl, ?_, hfail⟩
        rw [List.foldlM_cons, bind_of_ok hstep]
        exact hrun

/-! ## §4. Reasons to fail. -/

/-- The computation fails for reasons that satisfy `P` only. -/
def FailsAs (P : ε → Prop) (r : Except ε α) : Prop :=
  ∀ x, r = .error x → P x

namespace FailsAs

variable {P : ε → Prop} {r : Except ε α}

theorem ofOk {a : α} (h : r = .ok a) : FailsAs P r := by
  intro x hx
  rw [h] at hx
  cases hx

theorem ofError {x : ε} (h : P x) : FailsAs P (.error x : Except ε α) := by
  intro y hy
  cases hy
  exact h

theorem bind {next : α → Except ε β} (h : FailsAs P r)
    (hnext : ∀ a, r = .ok a → FailsAs P (next a)) :
    FailsAs P (r >>= next) := by
  intro x hx
  rw [bind_eq_error] at hx
  rcases hx with hx | ⟨a, ha, hx⟩
  · exact h x hx
  · exact hnext a ha x hx

/-- A run fails as its steps do, from the states that it comes to. -/
theorem foldlM {f : σ → α → Except ε σ} {as : List α} {s : σ}
    (h : ∀ done a rest s', as = done ++ a :: rest →
      done.foldlM f s = .ok s' → FailsAs P (f s' a)) :
    FailsAs P (as.foldlM f s) := by
  intro x hx
  obtain ⟨done, a, rest, s', has, hrun, hstep⟩ := foldlM_eq_error hx
  exact h done a rest s' has hrun x hstep

end FailsAs

end SchemaTables
