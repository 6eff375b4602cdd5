/-
  SchemaTables.Proofs.Files.Writing
  ─────────────────────────────────
  **WRITING CHANGES ONE FILE.**

  Each place of a tree has an item, a file with its bytes or a folder, or
  nothing (`Node.itemAt`).  Writing a file puts it in its place, and all other
  places keep what they have (`itemAt_write`).

  Folders stay folders and nothing goes away, so paths lead where they led
  (`resolveFrom_of_grows`).  The path that was written to hence leads to the
  file with the new text (`writeText_spec`).
-/
import SchemaTables.Proofs.Files.Tree

namespace SchemaTables.Files

/-- A file with its bytes, or a folder without its entries. -/
inductive Item where
  | file (bytes : ByteArray)
  | folder

namespace Node

variable {root node : Node} {name other : String} {bytes : ByteArray}
  {entries : List (String × Node)} {place : List String}

/-! ## §1. Items. -/

/-- What a node is. -/
def item : Node → Item
  | .file bytes => .file bytes
  | .folder _ => .folder

/-- What is at a place. -/
def itemAt (root : Node) (place : List String) : Option Item :=
  (root.find? place).map item

theorem itemAt_nil (root : Node) : root.itemAt [] = some root.item := by
  unfold itemAt
  rw [find?_nil]
  rfl

theorem itemAt_file_cons :
    (file bytes).itemAt (name :: place) = none := rfl

theorem itemAt_folder_cons :
    (folder entries).itemAt (name :: place)
      = ( entry? name entries).bind (·.itemAt place) := by
  unfold itemAt
  rw [find?_folder_cons, Option.map_bind]
  rfl

theorem isFolder_iff_itemAt :
    root.isFolder place = true ↔ root.itemAt place = some .folder := by
  unfold isFolder itemAt
  cases root.find? place with
  | none => simp
  | some node => cases node <;> simp [item]

/-! ## §2. Writing. -/

theorem entry?_putEntry :
    entry? other (putEntry name bytes entries) =
      if other = name then some (.file bytes) else entry? other entries := by
  induction entries with
  | nil => simp only [putEntry, entry?, eq_comm]
  | cons e entries ih =>
      obtain ⟨n, m⟩ := e
      rw [putEntry]
      by_cases hn : n = name
      · rw [if_pos hn, entry?_cons, entry?_cons, hn]
        by_cases h : other = name
        · rw [if_pos h, if_pos h.symm]
        · rw [if_neg h, if_neg (Ne.symm h), if_neg (Ne.symm h)]
      · rw [if_neg hn, entry?_cons, entry?_cons, ih]
        by_cases h : n = other
        · rw [if_pos h, if_pos h, if_neg (h ▸ hn)]
        · rw [if_neg h, if_neg h]

theorem entry?_changeEntry {change : Node → Node} :
    entry? other (changeEntry change name entries) =
      if other = name then ( entry? other entries).map change
      else entry? other entries := by
  induction entries with
  | nil => simp [changeEntry, entry?]
  | cons e entries ih =>
      obtain ⟨n, m⟩ := e
      rw [changeEntry]
      by_cases hn : n = name
      · rw [if_pos hn, entry?_cons, entry?_cons, hn]
        by_cases h : other = name
        · rw [if_pos h, if_pos h.symm, if_pos h.symm]
          rfl
        · rw [if_neg h, if_neg (Ne.symm h), if_neg (Ne.symm h)]
      · rw [if_neg hn, entry?_cons, entry?_cons, ih]
        by_cases h : n = other
        · rw [if_pos h, if_pos h, if_neg (h ▸ hn)]
        · rw [if_neg h, if_neg h]

/-- A folder gets one entry that is a file, where it had no folder. -/
theorem itemAt_putEntry
    (hfree : (folder entries).itemAt [name] ≠ some .folder)
    (q : List String) :
    (folder (putEntry name bytes entries)).itemAt q =
      if q = [name] then some (.file bytes)
      else (folder entries).itemAt q := by
  cases q with
  | nil => rw [itemAt_nil, itemAt_nil, if_neg (List.cons_ne_nil _ _).symm]; rfl
  | cons n q =>
      rw [itemAt_folder_cons, itemAt_folder_cons, entry?_putEntry]
      by_cases hn : n = name
      · subst hn
        rw [if_pos rfl, Option.bind_some]
        cases q with
        | nil => rw [if_pos rfl, itemAt_nil]; rfl
        | cons m q =>
            -- below a file there is nothing, and there was no folder
            rw [if_neg (by simp), itemAt_file_cons]
            rw [itemAt_folder_cons] at hfree
            cases hentry : entry? n entries with
            | none => rfl
            | some node =>
                cases node with
                | file b => rfl
                | folder es =>
                    rw [hentry, Option.bind_some, itemAt_nil] at hfree
                    exact absurd rfl hfree
      · rw [if_neg hn, if_neg (by simp [hn])]

/-- The file is in its place, and all other places are as they were. -/
theorem itemAt_write (bytes : ByteArray) (place : List String) :
    ∀ {root : Node}, root.itemAt place = some .folder →
      root.itemAt (place ++ [name]) ≠ some .folder →
      ∀ q, (root.write name bytes place).itemAt q =
        if q = place ++ [name] then some (.file bytes)
        else root.itemAt q := by
  induction place with
  | nil =>
      intro root hfolder hfree q
      cases root with
      | file b => cases hfolder
      | folder entries => exact itemAt_putEntry hfree q
  | cons step place ih =>
      intro root hfolder hfree q
      cases root with
      | file b => cases hfolder
      | folder entries =>
          rw [List.cons_append, itemAt_folder_cons] at hfree
          rw [itemAt_folder_cons] at hfolder
          cases hstep : entry? step entries with
          | none =>
              rw [hstep] at hfolder
              cases hfolder
          | some node =>
              rw [hstep, Option.bind_some] at hfolder hfree
              rw [write]
              cases q with
              | nil => rw [itemAt_nil, itemAt_nil, if_neg (by simp)]; rfl
              | cons n q =>
                  rw [itemAt_folder_cons, itemAt_folder_cons,
                    entry?_changeEntry]
                  by_cases hn : n = step
                  · subst hn
                    rw [if_pos rfl, hstep, Option.map_some, Option.bind_some,
                      Option.bind_some, ih hfolder hfree q]
                    simp
                  · rw [if_neg hn, if_neg (by simp [hn])]

/-! ## §3. Growing trees. -/

/-- All folders stay folders, and where there is something, there still
is. -/
structure Grows (root root' : Node) : Prop where
  folder : ∀ place, root.itemAt place = some .folder →
    root'.itemAt place = some .folder
  isSome : ∀ place, (root.itemAt place).isSome = true →
    (root'.itemAt place).isSome = true

theorem grows_write (bytes : ByteArray)
    (hfolder : root.itemAt place = some .folder)
    (hfree : root.itemAt (place ++ [name]) ≠ some .folder) :
    root.Grows (root.write name bytes place) := by
  constructor
  · intro q hq
    rw [itemAt_write bytes place hfolder hfree, if_neg]
    · exact hq
    · intro heq
      exact hfree (heq ▸ hq)
  · intro q hq
    rw [itemAt_write bytes place hfolder hfree]
    by_cases heq : q = place ++ [name]
    · rw [if_pos heq]
      rfl
    · rw [if_neg heq]
      exact hq

end Node

/-! ## §4. Paths. -/

section Paths

variable {root root' written : Node} {cwd : List String}
  {path text : String} {place place' : List String}

/-- One step of a path that goes on: from a folder, to what is there. -/
theorem resolveFrom_cons_eq_ok {name : String} {rest : List String} :
    resolveFrom root place (name :: rest) = .ok place' ↔
      root.itemAt place = some .folder ∧
        (if staysInPlace name then resolveFrom root place rest = .ok place'
        else if name = ".." then
          resolveFrom root place.dropLast rest = .ok place'
        else (root.itemAt (place ++ [name])).isSome = true ∧
          resolveFrom root (place ++ [name]) rest = .ok place') := by
  rw [resolveFrom_cons]
  unfold Node.itemAt
  rw [Option.isSome_map]
  cases root.find? place with
  | none => simp
  | some node =>
      cases node with
      | file bytes => simp [Node.item]
      | folder entries =>
          simp only [Option.map_some, Node.item, true_and]
          split
          · rfl
          · split
            · rfl
            · split <;> simp [*]

/-- In a tree that has grown, paths lead where they led. -/
theorem resolveFrom_of_grows (h : root.Grows root') (names : List String) :
    ∀ place, resolveFrom root place names = .ok place' →
      resolveFrom root' place names = .ok place' := by
  induction names with
  | nil => intro place hplace; exact hplace
  | cons name names ih =>
      intro place hplace
      rw [resolveFrom_cons_eq_ok] at hplace ⊢
      obtain ⟨hfolder, hnext⟩ := hplace
      refine ⟨h.folder place hfolder, ?_⟩
      split
      · next hstay =>
          rw [if_pos hstay] at hnext
          exact ih place hnext
      · next hstay =>
          rw [if_neg hstay] at hnext
          split
          · next hup =>
              rw [if_pos hup] at hnext
              exact ih _ hnext
          · next hup =>
              rw [if_neg hup] at hnext
              exact ⟨h.isSome _ hnext.1, ih _ hnext.2⟩

theorem resolveFrom_append {names rest : List String} :
    resolveFrom root place (names ++ rest) =
      match resolveFrom root place names with
      | .error e => .error e
      | .ok place' => resolveFrom root place' rest := by
  induction names generalizing place with
  | nil => rfl
  | cons name names ih =>
      rw [List.cons_append, resolveFrom_cons, resolveFrom_cons, ih, ih, ih]
      cases root.find? place with
      | none => rfl
      | some node =>
          cases node with
          | file bytes => rfl
          | folder entries =>
              dsimp only
              split
              · rfl
              · split
                · rfl
                · split <;> rfl

/-- The last name of a path is a name in a folder. -/
theorem splitLast_eq_some {parents : List String} {name : String}
    (h : splitLast path = (parents, some name)) :
    pathNames path = parents ++ [name] ∧ staysInPlace name = false ∧
      name ≠ ".." := by
  unfold splitLast at h
  dsimp only at h
  cases hlast : (pathNames path).getLast? with
  | none =>
      rw [hlast] at h
      cases h
  | some last =>
      rw [hlast] at h
      dsimp only at h
      split at h
      · cases h
      · next hplain =>
          cases h
          rw [Bool.or_eq_true, not_or, decide_eq_true_eq,
            Bool.not_eq_true] at hplain
          obtain ⟨names, hnames⟩ := List.getLast?_eq_some_iff.mp hlast
          rw [hnames, List.dropLast_concat]
          exact ⟨rfl, hplain⟩

/-- A text is written into a folder that there is, where no folder has the
name. -/
theorem writeText_eq_ok (h : writeText root cwd path text = .ok written) :
    ∃ parents name place, splitLast path = (parents, some name) ∧
      resolveFrom root (if isAbsolute path then [] else cwd) parents
        = .ok place ∧
      root.itemAt place = some .folder ∧
      root.itemAt (place ++ [name]) ≠ some .folder ∧
      written = root.write name text.toUTF8 place := by
  unfold writeText at h
  cases hsplit : splitLast path with
  | mk parents last =>
      rw [hsplit] at h
      dsimp only at h
      split at h
      · cases h
      · next place hplace =>
          split at h
          · cases h
          · next hfolder =>
              split at h
              · cases h
              · next name =>
                  split at h
                  · cases h
                  · next hfree =>
                      cases h
                      rw [Bool.not_eq_true', Bool.not_eq_false,
                        Node.isFolder_iff_itemAt] at hfolder
                      rw [Node.isFolder_iff_itemAt] at hfree
                      exact ⟨parents, name, place, rfl, hplace, hfolder,
                        hfree, rfl⟩

/-- Writing puts the text where its path leads, and nothing else changes. -/
theorem writeText_spec (h : writeText root cwd path text = .ok written) :
    ∃ place, resolve written cwd path = .ok place ∧
      written.itemAt place = some (.file text.toUTF8) ∧
      ∀ q, q ≠ place → written.itemAt q = root.itemAt q := by
  obtain ⟨parents, name, place, hsplit, hplace, hfolder, hfree, rfl⟩ :=
    writeText_eq_ok h
  obtain ⟨hnames, hstay, hup⟩ := splitLast_eq_some hsplit
  have hwrite := Node.itemAt_write text.toUTF8 place hfolder hfree
  have hgrows := Node.grows_write text.toUTF8 hfolder hfree
  have hfile := hwrite (place ++ [name])
  rw [if_pos rfl] at hfile
  refine ⟨place ++ [name], ?_, hfile, ?_⟩
  · unfold resolve
    rw [hnames, resolveFrom_append, resolveFrom_of_grows hgrows _ _ hplace]
    dsimp only
    rw [resolveFrom_cons_eq_ok, hstay, if_neg Bool.false_ne_true, if_neg hup,
      hfile]
    exact ⟨hgrows.folder place hfolder, rfl, rfl⟩
  · intro q hq
    rw [hwrite q, if_neg hq]

theorem decodeText_toUTF8 (text : String) :
    decodeText text.toUTF8 = .ok text := by
  have hvalid : text.toUTF8.IsValidUTF8 := text.isValidUTF8
  unfold decodeText String.fromUTF8?
  rw [dif_pos hvalid]
  rfl

/-- The text is read back where it was written. -/
theorem readText_of_writeText
    (h : writeText root cwd path text = .ok written) :
    readText written cwd path = .ok text := by
  obtain ⟨place, hplace, hfile, -⟩ := writeText_spec h
  unfold Node.itemAt at hfile
  rw [Option.map_eq_some_iff] at hfile
  obtain ⟨node, hnode, hfile⟩ := hfile
  cases node with
  | folder entries => cases hfile
  | file bytes =>
      cases hfile
      unfold readText nodeAt
      rw [hplace]
      dsimp only
      rw [hnode]
      exact decodeText_toUTF8 text

end Paths

end SchemaTables.Files
