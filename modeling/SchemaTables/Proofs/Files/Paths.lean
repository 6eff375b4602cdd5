/-
  SchemaTables.Proofs.Files.Paths
  ───────────────────────────────
  **THE ORDER OF PATHS.**

  Paths are compared name by name.  This is a strict order in which any two
  paths compare (`pathBefore_irrefl`, `pathBefore_trans`,
  `pathBefore_total`), and what stands in front of both makes no difference
  (`pathBefore_append_left`).

  The path of a file below a folder has the names of the folder and then
  those that lead to the file (`pathNames_below`), so files compare as their
  paths from the folder do.
-/
import SchemaTables.Proofs.Files.Tree
import SchemaTables.Files.Discovery
import Mathlib.Data.String.Basic

namespace SchemaTables.Files

/-! ## §1. The order. -/

section Order

variable {a b c : String} {as bs : List String}

theorem pathBefore_cons :
    pathBefore (a :: as) (b :: bs) = true ↔
      a < b ∨ a = b ∧ pathBefore as bs = true := by
  simp [pathBefore]

theorem pathBefore_irrefl (p : List String) : pathBefore p p = false := by
  induction p with
  | nil => rfl
  | cons a as ih => simp [pathBefore, ih]

theorem pathBefore_trans {p q r : List String} (hpq : pathBefore p q = true)
    (hqr : pathBefore q r = true) : pathBefore p r = true := by
  induction p generalizing q r with
  | nil =>
      cases q with
      | nil => cases hpq
      | cons b bs =>
          cases r with
          | nil => cases hqr
          | cons c cs => rfl
  | cons a as ih =>
      cases q with
      | nil => cases hpq
      | cons b bs =>
          cases r with
          | nil => cases hqr
          | cons c cs =>
              rw [pathBefore_cons] at hpq hqr ⊢
              rcases hpq with hab | ⟨rfl, hpq⟩
              · rcases hqr with hbc | ⟨rfl, -⟩
                · exact .inl (String.lt_trans hab hbc)
                · exact .inl hab
              · rcases hqr with hbc | ⟨rfl, hqr⟩
                · exact .inl hbc
                · exact .inr ⟨rfl, ih hpq hqr⟩

theorem pathBefore_asymm {p q : List String} (hpq : pathBefore p q = true) :
    pathBefore q p = false := by
  cases hqp : pathBefore q p with
  | false => rfl
  | true =>
      have hself := pathBefore_trans hpq hqp
      rw [pathBefore_irrefl] at hself
      cases hself

/-- Of two paths, one comes first. -/
theorem pathBefore_total {p q : List String} (h : p ≠ q) :
    pathBefore p q = true ∨ pathBefore q p = true := by
  induction p generalizing q with
  | nil =>
      cases q with
      | nil => exact absurd rfl h
      | cons b bs => exact .inl rfl
  | cons a as ih =>
      cases q with
      | nil => exact .inr rfl
      | cons b bs =>
          rw [pathBefore_cons, pathBefore_cons]
          rcases lt_trichotomy a b with hab | rfl | hba
          · exact .inl (.inl hab)
          · have hne : as ≠ bs := fun heq => h (by rw [heq])
            rcases ih hne with hlt | hgt
            · exact .inl (.inr ⟨rfl, hlt⟩)
            · exact .inr (.inr ⟨rfl, hgt⟩)
          · exact .inr (.inl hba)

/-- Names in front of both paths make no difference. -/
theorem pathBefore_append_left (above p q : List String) :
    pathBefore (above ++ p) (above ++ q) = pathBefore p q := by
  induction above with
  | nil => rfl
  | cons a above ih => simp [pathBefore, ih]

end Order

/-! ## §2. Names below a folder. -/

section Names

variable {folder name : String} {cs ds : List Char} {path : List String}

theorem pathNamesFrom_of_not_mem (h : '/' ∉ ds) :
    pathNamesFrom cs ds = [String.ofList (cs.reverse ++ ds)] := by
  induction ds generalizing cs with
  | nil =>
      rw [pathNamesFrom, List.append_nil]
  | cons d ds ih =>
      rw [List.mem_cons, not_or] at h
      rw [pathNamesFrom, if_neg (Ne.symm h.1), ih h.2]
      simp

theorem pathNamesFrom_slash (begun cs ds : List Char) :
    pathNamesFrom begun (cs ++ '/' :: ds)
      = pathNamesFrom begun cs ++ pathNamesFrom [] ds := by
  induction cs generalizing begun with
  | nil => rfl
  | cons c cs ih =>
      rw [List.cons_append, pathNamesFrom, pathNamesFrom]
      by_cases hc : c = '/'
      · rw [if_pos hc, if_pos hc, ih]
        rfl
      · rw [if_neg hc, if_neg hc, ih]

/-- The names in the path of a folder, without the empty one that a slash at
the end leaves. -/
def folderNames (folder : String) : List String :=
  if folder.toList.getLast? = some '/' then (pathNames folder).dropLast
  else pathNames folder

theorem pathNames_joinPath (hname : IsFileName name) :
    pathNames (joinPath folder name) = folderNames folder ++ [name] := by
  have hlast : pathNamesFrom [] name.toList = [name] := by
    rw [pathNamesFrom_of_not_mem hname.2]
    simp
  unfold folderNames joinPath pathNames
  by_cases hslash : folder.toList.getLast? = some '/'
  · obtain ⟨cs, hcs⟩ := List.getLast?_eq_some_iff.mp hslash
    have hempty : pathNamesFrom [] (cs ++ ['/'])
        = pathNamesFrom [] cs ++ [""] := pathNamesFrom_slash [] cs []
    rw [if_pos hslash, if_pos hslash, String.toList_append, hcs,
      List.append_assoc, List.singleton_append, pathNamesFrom_slash, hlast,
      hempty, List.dropLast_concat]
  · rw [if_neg hslash, if_neg hslash, String.toList_append,
      String.toList_append, List.append_assoc]
    show pathNamesFrom [] (folder.toList ++ '/' :: name.toList) = _
    rw [pathNamesFrom_slash, hlast]

theorem folderNames_joinPath (hname : IsFileName name) :
    folderNames (joinPath folder name) = folderNames folder ++ [name] := by
  have hend : (joinPath folder name).toList.getLast? ≠ some '/' := by
    have hne : name.toList ≠ [] := by
      intro hnil
      exact hname.1 (String.toList_eq_nil_iff.mp hnil)
    have hlast : ∀ cs : List Char,
        (cs ++ name.toList).getLast? ≠ some '/' := by
      intro cs heq
      rw [List.getLast?_append_of_ne_nil _ hne] at heq
      exact hname.2 (List.mem_of_getLast? heq)
    unfold joinPath
    split
    · rw [String.toList_append]
      exact hlast _
    · rw [String.toList_append]
      exact hlast _
  rw [← pathNames_joinPath hname]
  unfold folderNames
  rw [if_neg hend]

/-- A path below a folder has the names of the folder, and then its own. -/
theorem pathNames_below (hpath : path ≠ [])
    (hnames : ∀ n ∈ path, IsFileName n) :
    pathNames (path.foldl joinPath folder) = folderNames folder ++ path := by
  induction path generalizing folder with
  | nil => exact absurd rfl hpath
  | cons n path ih =>
      obtain ⟨hn, hnames⟩ := List.forall_mem_cons.mp hnames
      rw [List.foldl_cons]
      cases path with
      | nil => exact pathNames_joinPath hn
      | cons m path =>
          rw [ih (List.cons_ne_nil _ _) hnames, folderNames_joinPath hn,
            List.append_assoc, List.singleton_append]

end Names

end SchemaTables.Files
