/-
  SchemaTables.Proofs.CommandLine.Arguments
  ─────────────────────────────────────────
  **ARGUMENTS WITHOUT THE OUTPUT FILE.**

  What an argument is can be seen from the argument alone (`kindOf`), and
  what it does follows from that (`readTargets_cons`).

  The option for the output file may stand anywhere among the arguments.  Left
  out together with its file, it leaves arguments that ask for the same
  command and folder, and for no output file
  (`ofArguments?_withoutOutput`).
-/
import SchemaTables.CommandLine.Arguments

namespace SchemaTables.CommandLine

variable {t t' : Targets} {name file folder : String}
  {rest : List String} {command : Command}

/-! ## §1. Kinds of arguments. -/

/-- What an argument of a command is. -/
inductive ArgumentKind where
  /-- Two dashes: only folders follow. -/
  | dashes
  /-- The option whose file is the next argument. -/
  | output
  | help
  /-- The option together with its file. -/
  | attached (file : String)
  | unknown
  | folder

/-- The kind of an argument. -/
def kindOf (arg : String) : ArgumentKind :=
  if arg = "--" then .dashes
  else if arg = "--output" ∨ arg = "-o" then .output
  else if arg = "--help" || (after? "-h" arg).isSome then .help
  else
    match attachedOutput? arg with
    | some file => .attached file
    | none => if isOption arg then .unknown else .folder

/-- What one argument does. -/
theorem readTargets_cons (t : Targets) (arg : String) (rest : List String) :
    readTargets t (arg :: rest) =
      match kindOf arg with
      | .dashes => readFolders t rest
      | .output => readTargets.readFile t rest
      | .help => .help
      | .attached file =>
          match t.withOutput file with
          | some t => readTargets t rest
          | none => .wrong
      | .unknown => .wrong
      | .folder =>
          match t.withFolder arg with
          | some t => readTargets t rest
          | none => .wrong := by
  unfold kindOf
  by_cases hdashes : arg = "--"
  · subst hdashes
    rw [if_pos rfl, readTargets]
  · rw [if_neg hdashes]
    by_cases hlong : arg = "--output"
    · subst hlong
      rw [if_pos (.inl rfl), readTargets]
    · by_cases hshort : arg = "-o"
      · subst hshort
        rw [if_pos (.inr rfl), readTargets]
      · rw [if_neg (not_or.mpr ⟨hlong, hshort⟩), readTargets]
        · split
          · rfl
          · cases attachedOutput? arg with
            | some file => rfl
            | none =>
                dsimp only
                split <;> rfl
        · exact hdashes
        · exact hlong
        · exact hshort

/-! ## §2. Leaving the output file out. -/

/-- The same folder, and no output file. -/
def Targets.toStdout (t : Targets) : Targets := { t with output := none }

/-- The arguments without the option for the output file; `skip` tells whether
the next one is the file. -/
def withoutOutputFrom (skip : Bool) : List String → List String
  | [] => []
  | arg :: rest =>
      if skip then withoutOutputFrom false rest
      else
        match kindOf arg with
        | .dashes => arg :: rest
        | .output => withoutOutputFrom true rest
        | .attached _ => withoutOutputFrom false rest
        | _ => arg :: withoutOutputFrom false rest

/-- The arguments of a command without the option for the output file. -/
def withoutOutput (args : List String) : List String :=
  withoutOutputFrom false args

theorem toStdout_withOutput (h : t.withOutput file = some t') :
    t'.toStdout = t.toStdout := by
  unfold Targets.withOutput at h
  split at h
  · cases h
  · cases h
    rfl

/-- A folder is set alike where there is no output file. -/
theorem withFolder_toStdout (h : t.withFolder folder = some t') :
    t.toStdout.withFolder folder = some t'.toStdout := by
  unfold Targets.withFolder at h ⊢
  split at h
  · cases h
  · next hnone =>
      cases h
      exact if_neg hnone

theorem readFolders_toStdout (args : List String) :
    ∀ {t t' : Targets}, readFolders t args = .targets t' →
      readFolders t.toStdout args = .targets t'.toStdout := by
  induction args with
  | nil =>
      intro t t' h
      cases h
      rfl
  | cons arg args ih =>
      intro t t' h
      rw [readFolders] at h ⊢
      cases hfolder : t.withFolder arg with
      | none =>
          rw [hfolder] at h
          cases h
      | some t₁ =>
          rw [hfolder] at h
          rw [withFolder_toStdout hfolder]
          exact ih h

theorem readFile_cons_eq_targets
    (h : readTargets.readFile t (file :: rest) = .targets t') :
    ∃ t₁, t.withOutput file = some t₁ ∧ readTargets t₁ rest = .targets t' := by
  rw [readTargets.readFile] at h
  split at h
  · cases h
  · cases houtput : t.withOutput file with
    | none =>
        rw [houtput] at h
        cases h
    | some t₁ =>
        rw [houtput] at h
        exact ⟨t₁, rfl, h⟩

/-- Without the output file the arguments ask for the same folder.  Behind the
option comes its file, so both are shown together. -/
theorem readTargets_withoutOutputFrom (args : List String) :
    (∀ t t' : Targets, readTargets t args = .targets t' →
      readTargets t.toStdout (withoutOutputFrom false args)
        = .targets t'.toStdout) ∧
    (∀ t t' : Targets, readTargets.readFile t args = .targets t' →
      readTargets t.toStdout (withoutOutputFrom true args)
        = .targets t'.toStdout) := by
  induction args with
  | nil =>
      constructor
      · intro t t' h
        rw [readTargets] at h
        cases h
        rfl
      · intro t t' h
        rw [readTargets.readFile] at h
        cases h
  | cons arg rest ih =>
      obtain ⟨ihtargets, ihfile⟩ := ih
      constructor
      · intro t t' h
        rw [readTargets_cons] at h
        rw [withoutOutputFrom, if_neg Bool.false_ne_true]
        cases hkind : kindOf arg with
        | dashes =>
            rw [hkind] at h
            show readTargets t.toStdout (arg :: rest) = _
            rw [readTargets_cons, hkind]
            exact readFolders_toStdout rest h
        | output =>
            rw [hkind] at h
            exact ihfile t t' h
        | help =>
            rw [hkind] at h
            cases h
        | attached file =>
            rw [hkind] at h
            dsimp only at h ⊢
            split at h
            · next t₁ ht₁ =>
                rw [← toStdout_withOutput ht₁]
                exact ihtargets t₁ t' h
            · cases h
        | unknown =>
            rw [hkind] at h
            cases h
        | folder =>
            rw [hkind] at h
            dsimp only at h ⊢
            split at h
            · next t₁ ht₁ =>
                rw [readTargets_cons, hkind]
                dsimp only
                rw [withFolder_toStdout ht₁]
                exact ihtargets t₁ t' h
            · cases h
      · intro t t' h
        obtain ⟨t₁, ht₁, h⟩ := readFile_cons_eq_targets h
        rw [withoutOutputFrom, if_pos rfl, ← toStdout_withOutput ht₁]
        exact ihtargets t₁ t' h

/-! ## §3. Requests. -/

/-- Behind the name of a command are its targets, or a question for help. -/
theorem ofArguments?_command (hcommand : Command.ofName? name = some command)
    (rest : List String) :
    Request.ofArguments? (name :: rest) =
      match readTargets {} rest with
      | .targets t => some (.run command t)
      | .help => some .help
      | .wrong => none := by
  have hplain : ¬ (name = "--version" || (after? "-V" name).isSome) = true ∧
      ¬ (name = "--help" || (after? "-h" name).isSome) = true := by
    unfold Command.ofName? at hcommand
    split at hcommand
    · decide +kernel
    · decide +kernel
    · decide +kernel
    · cases hcommand
  cases hread : readTargets {} rest <;>
    simp only [Request.ofArguments?, if_neg hplain.1, if_neg hplain.2,
      hcommand, hread]

/-- Without the output file, the arguments ask for the same otherwise. -/
theorem ofArguments?_withoutOutput
    (hcommand : Command.ofName? name = some command)
    (h : Request.ofArguments? (name :: rest) = some (.run command t)) :
    Request.ofArguments? (name :: withoutOutput rest)
      = some (.run command t.toStdout) := by
  rw [ofArguments?_command hcommand] at h ⊢
  cases hread : readTargets {} rest with
  | help =>
      rw [hread] at h
      cases h
  | wrong =>
      rw [hread] at h
      cases h
  | targets t' =>
      rw [hread] at h
      cases h
      have hrest : readTargets {} (withoutOutput rest)
          = .targets t.toStdout :=
        (readTargets_withoutOutputFrom rest).1 {} t hread
      rw [hrest]

end SchemaTables.CommandLine
