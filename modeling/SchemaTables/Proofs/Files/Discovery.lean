/-
  SchemaTables.Proofs.Files.Discovery
  ───────────────────────────────────
  **ALL SCHEMA FILES ARE FOUND, EACH ONCE AND IN ORDER.**

  A search should reach the files whose names match the pattern and that lie
  in no hidden folder (`Reached`).  It finds just these (`mem_findAmong`),
  none of them twice (`nodup_findIn`), and sorting makes of them the one list
  that is in the order of the paths (`discover_spec`).

  What is found is hence determined by the files that should be: neither the
  order of the entries nor any other file has a part in it
  (`discover_eq_of_reached`).
-/
import SchemaTables.Proofs.Files.Paths
import Mathlib.Data.List.Nodup

namespace SchemaTables.Files

open Text

variable {entries entries' inner : List (String × Node)} {node : Node}
  {pattern name : String} {bytes : ByteArray} {path : List String}
  {f g : FoundFile} {files : List FoundFile}

/-! ## §1. Files that should be found. -/

/-- Below the folder with these entries, the file is where it is said to be,
in folders that are not hidden, and its name matches. -/
structure Reached (entries : List (String × Node)) (pattern : String)
    (f : FoundFile) : Prop where
  isFile : (Node.folder entries).find? f.path = some (.file f.bytes)
  notHidden : ∀ folder ∈ f.path.dropLast, isHidden folder = false
  isMatch : ∃ name, f.path.getLast? = some name ∧
    wildcardMatches pattern.toList name.toList = true

theorem Reached.path_ne_nil (h : Reached entries pattern f) :
    f.path ≠ [] := by
  intro hnil
  have hfile := h.isFile
  rw [hnil] at hfile
  cases hfile

/-- A file is reached right in the folder, or through one of its folders. -/
theorem reached_cons :
    Reached entries pattern ⟨name :: path, bytes⟩ ↔
      Node.entry? name entries = some (.file bytes) ∧ path = [] ∧
          wildcardMatches pattern.toList name.toList = true ∨
        ∃ inner, Node.entry? name entries = some (.folder inner) ∧
          isHidden name = false ∧ Reached inner pattern ⟨path, bytes⟩ := by
  constructor
  · intro h
    obtain ⟨hfile, hhidden, hmatch⟩ := h
    rw [Node.find?_folder_cons, Option.bind_eq_some_iff] at hfile
    obtain ⟨node, hentry, hfile⟩ := hfile
    cases path with
    | nil =>
        rw [Node.find?_nil, Option.some.injEq] at hfile
        obtain ⟨n, hn, hmatch⟩ := hmatch
        cases hn
        exact .inl ⟨hfile ▸ hentry, rfl, hmatch⟩
    | cons m path =>
        cases node with
        | file b => cases hfile
        | folder inner =>
            rw [List.dropLast_cons_of_ne_nil (List.cons_ne_nil _ _),
              List.forall_mem_cons] at hhidden
            exact .inr ⟨inner, hentry, hhidden.1, hfile, hhidden.2, hmatch⟩
  · intro h
    rcases h with ⟨hentry, rfl, hmatch⟩ | ⟨inner, hentry, hname, hreached⟩
    · refine ⟨?_, ?_, name, rfl, hmatch⟩
      · rw [Node.find?_folder_cons, hentry]
        rfl
      · intro n hn
        cases hn
    · have hne := hreached.path_ne_nil
      obtain ⟨m, path, rfl⟩ := List.exists_cons_of_ne_nil hne
      refine ⟨?_, ?_, hreached.isMatch⟩
      · rw [Node.find?_folder_cons, hentry]
        exact hreached.isFile
      · rw [List.dropLast_cons_of_ne_nil hne, List.forall_mem_cons]
        exact ⟨hname, hreached.notHidden⟩

/-- In folders with the same files, the same are reached. -/
theorem reached_rearranged
    (h : (Node.folder entries).Rearranged (.folder entries'))
    (hfolder : (Node.folder entries).WellFormed) :
    Reached entries pattern f ↔ Reached entries' pattern f := by
  have hfile := Node.rel_file (Node.find?_rearranged h hfolder f.path) f.bytes
  constructor
  · intro hf
    exact ⟨hfile.mp hf.isFile, hf.notHidden, hf.isMatch⟩
  · intro hf
    exact ⟨hfile.mpr hf.isFile, hf.notHidden, hf.isMatch⟩

/-! ## §2. Finding. -/

theorem findAmong_eq_flatMap (cs : List Char)
    (entries : List (String × Node)) :
    findAmong cs entries = entries.flatMap (findEntry cs) := by
  induction entries with
  | nil => rfl
  | cons e entries ih => rw [findAmong, ih, List.flatMap_cons]

theorem mem_findEntry_file :
    f ∈ findEntry pattern.toList (name, .file bytes) ↔
      f = ⟨[name], bytes⟩ ∧
        wildcardMatches pattern.toList name.toList = true := by
  rw [findEntry]
  by_cases hmatch : wildcardMatches pattern.toList name.toList = true
  · simp [hmatch]
  · simp [hmatch]

theorem mem_findEntry_folder :
    f ∈ findEntry pattern.toList (name, .folder inner) ↔
      isHidden name = false ∧
        ∃ g ∈ findAmong pattern.toList inner, f = g.below name := by
  rw [findEntry, findIn]
  cases hhidden : isHidden name with
  | true => simp
  | false => simp [eq_comm]

/-- What is found has at least its own name in its path. -/
theorem head?_path_of_mem_findEntry {e : String × Node}
    (h : f ∈ findEntry pattern.toList e) : f.path.head? = some e.1 := by
  obtain ⟨name, node⟩ := e
  cases node with
  | file bytes =>
      obtain ⟨rfl, -⟩ := mem_findEntry_file.mp h
      rfl
  | folder inner =>
      obtain ⟨-, g, -, rfl⟩ := mem_findEntry_folder.mp h
      rfl

/-- The files found are those that should be. -/
theorem mem_findAmong (path : List String) :
    ∀ {entries : List (String × Node)}, (Node.folder entries).WellFormed →
      (⟨path, bytes⟩ ∈ findAmong pattern.toList entries ↔
        Reached entries pattern ⟨path, bytes⟩) := by
  induction path with
  | nil =>
      intro entries _
      rw [findAmong_eq_flatMap, List.mem_flatMap]
      constructor
      · intro hfound
        obtain ⟨e, -, hfound⟩ := hfound
        cases head?_path_of_mem_findEntry hfound
      · intro hreached
        exact absurd rfl hreached.path_ne_nil
  | cons name path ih =>
      intro entries hfolder
      have hdistinct : (entries.map Prod.fst).Nodup := by
        cases hfolder with
        | folder distinct _ _ => exact distinct
      rw [findAmong_eq_flatMap, List.mem_flatMap, reached_cons]
      constructor
      · intro hfound
        obtain ⟨⟨n, node⟩, hmem, hfound⟩ := hfound
        cases head?_path_of_mem_findEntry hfound
        have hentry := (Node.entry?_eq_some hdistinct).mpr hmem
        cases node with
        | file b =>
            obtain ⟨heq, hmatch⟩ := mem_findEntry_file.mp hfound
            cases heq
            exact .inl ⟨hentry, rfl, hmatch⟩
        | folder inner =>
            obtain ⟨hhidden, g, hg, heq⟩ := mem_findEntry_folder.mp hfound
            cases heq
            exact .inr ⟨inner, hentry, hhidden,
              (ih (hfolder.of_entry hentry)).mp hg⟩
      · intro hreached
        rcases hreached with
          ⟨hentry, rfl, hmatch⟩ | ⟨inner, hentry, hhidden, hreached⟩
        · exact ⟨_, Node.mem_of_entry hentry,
            mem_findEntry_file.mpr ⟨rfl, hmatch⟩⟩
        · exact ⟨_, Node.mem_of_entry hentry,
            mem_findEntry_folder.mpr ⟨hhidden, _,
              (ih (hfolder.of_entry hentry)).mpr hreached, rfl⟩⟩

/-- No path is found twice. -/
theorem nodup_findIn (h : node.WellFormed) :
    ((findIn pattern.toList node).map FoundFile.path).Nodup := by
  induction h with
  | file bytes =>
      rw [findIn]
      exact List.nodup_nil
  | @folder entries distinct _ _ ih =>
      rw [findIn, findAmong_eq_flatMap, List.map_flatMap, List.nodup_flatMap]
      constructor
      · intro e he
        obtain ⟨name, node⟩ := e
        cases node with
        | file bytes =>
            rw [findEntry]
            split <;> simp
        | folder inner =>
            rw [findEntry]
            split
            · exact List.nodup_nil
            · have hbelow : (FoundFile.path ∘ fun f => f.below name)
                  = (name :: ·) ∘ FoundFile.path := rfl
              rw [List.map_map, hbelow, ← List.map_map]
              exact (ih _ he).map (List.cons_injective (a := name))
      · -- entries of different names find paths that begin differently
        rw [List.Nodup, List.pairwise_map] at distinct
        refine distinct.imp ?_
        intro e e' hne p hp hp'
        obtain ⟨f, hf, rfl⟩ := List.mem_map.mp hp
        obtain ⟨g, hg, heq⟩ := List.mem_map.mp hp'
        have hfirst := head?_path_of_mem_findEntry hf
        rw [← heq, head?_path_of_mem_findEntry hg,
          Option.some.injEq] at hfirst
        exact hne hfirst.symm

/-! ## §3. Sorting. -/

/-- The files are in the order of their paths. -/
def InOrder (files : List FoundFile) : Prop :=
  files.Pairwise fun f g => pathBefore f.path g.path = true

theorem perm_insertFile (f : FoundFile) (files : List FoundFile) :
    (insertFile f files).Perm (f :: files) := by
  induction files with
  | nil => exact .refl _
  | cons g rest ih =>
      rw [insertFile]
      by_cases hg : pathBefore g.path f.path = true
      · rw [if_pos hg]
        exact (ih.cons g).trans (.swap f g rest)
      · rw [if_neg hg]

theorem perm_sortFiles (files : List FoundFile) :
    (sortFiles files).Perm files := by
  induction files with
  | nil => exact .refl _
  | cons f files ih => exact (perm_insertFile f _).trans (ih.cons f)

theorem inOrder_insertFile (h : InOrder files)
    (hnew : ∀ g ∈ files, f.path ≠ g.path) : InOrder (insertFile f files) := by
  induction files with
  | nil => exact List.pairwise_singleton _ _
  | cons g rest ih =>
      obtain ⟨hg, hrest⟩ := List.pairwise_cons.mp h
      obtain ⟨hfg, hnew⟩ := List.forall_mem_cons.mp hnew
      rw [insertFile]
      by_cases hgf : pathBefore g.path f.path = true
      · rw [if_pos hgf]
        refine List.pairwise_cons.mpr ⟨?_, ih hrest hnew⟩
        intro k hk
        rcases List.mem_cons.mp ((perm_insertFile f rest).mem_iff.mp hk)
          with rfl | hk
        · exact hgf
        · exact hg k hk
      · rw [if_neg hgf]
        have hfirst : pathBefore f.path g.path = true := by
          rcases pathBefore_total hfg with hlt | hgt
          · exact hlt
          · exact absurd hgt hgf
        refine List.pairwise_cons.mpr ⟨?_, h⟩
        intro k hk
        rcases List.mem_cons.mp hk with rfl | hk
        · exact hfirst
        · exact pathBefore_trans hfirst (hg k hk)

theorem inOrder_sortFiles (h : (files.map FoundFile.path).Nodup) :
    InOrder (sortFiles files) := by
  induction files with
  | nil => exact .nil
  | cons f files ih =>
      rw [List.map_cons, List.nodup_cons] at h
      refine inOrder_insertFile (ih h.2) ?_
      intro g hg heq
      have hmem := (perm_sortFiles files).mem_iff.mp hg
      exact h.1 (heq ▸ List.mem_map_of_mem hmem)

/-- Files in order are told by which they are. -/
theorem eq_of_inOrder {files files' : List FoundFile} (h : InOrder files)
    (h' : InOrder files') (hmem : ∀ f, f ∈ files ↔ f ∈ files') :
    files = files' := by
  have hnodup : ∀ {fs : List FoundFile}, InOrder fs → fs.Nodup := by
    intro fs hfs
    refine hfs.imp ?_
    intro f g hfg heq
    rw [heq, pathBefore_irrefl] at hfg
    cases hfg
  refine List.Perm.eq_of_pairwise ?_ h h'
    ((List.perm_ext_iff_of_nodup (hnodup h) (hnodup h')).mpr hmem)
  intro f g _ _ hfg hgf
  rw [pathBefore_asymm hfg] at hgf
  cases hgf

/-! ## §4. Discovery. -/

/-- The files that should be found, in order. -/
theorem discover_spec (pattern : String)
    (h : (Node.folder entries).WellFormed) :
    InOrder (discover pattern (.folder entries)) ∧
      ∀ f, f ∈ discover pattern (.folder entries) ↔
        Reached entries pattern f := by
  refine ⟨inOrder_sortFiles (nodup_findIn h), ?_⟩
  intro f
  unfold discover
  rw [(perm_sortFiles _).mem_iff, findIn]
  exact mem_findAmong f.path h

/-- Nothing but the files that should be found has a part in it. -/
theorem discover_eq_of_reached (h : (Node.folder entries).WellFormed)
    (h' : (Node.folder entries').WellFormed)
    (hsame : ∀ f, Reached entries pattern f ↔ Reached entries' pattern f) :
    discover pattern (.folder entries)
      = discover pattern (.folder entries') := by
  obtain ⟨horder, hmem⟩ := discover_spec pattern h
  obtain ⟨horder', hmem'⟩ := discover_spec pattern h'
  refine eq_of_inOrder horder horder' ?_
  intro f
  rw [hmem, hmem', hsame]

end SchemaTables.Files
