/-
  SchemaTables.Proofs.Files.Tree
  ──────────────────────────────
  **TREES WHOSE ENTRIES ARE LISTED IN ANY ORDER.**

  The names in a folder are distinct, and each is the name of a file: it is
  not empty and has no slash (`Node.WellFormed`).  Two trees are
  rearrangements of each other if they differ in nothing but the order in
  which folders list their entries (`Node.Rearranged`).

  At each place, rearrangements have the same file or folders that are
  rearrangements again (`find?_rearranged`), so a path leads to the same place
  in both (`resolve_rearranged`).
-/
import SchemaTables.Files.Tree

namespace SchemaTables.Files

/-! ## §1. Entries. -/

/-- Can an entry of a folder have this name? -/
def IsFileName (name : String) : Prop := name ≠ "" ∧ '/' ∉ name.toList

instance (name : String) : Decidable (IsFileName name) :=
  inferInstanceAs (Decidable (_ ∧ _))

/-- In all folders of the tree, the names are distinct names of files. -/
inductive Node.WellFormed : Node → Prop where
  | file (bytes : ByteArray) : WellFormed (.file bytes)
  | folder {entries : List (String × Node)}
      (distinct : (entries.map Prod.fst).Nodup)
      (names : ∀ e ∈ entries, IsFileName e.1)
      (below : ∀ e ∈ entries, e.2.WellFormed) : WellFormed (.folder entries)

namespace Node

variable {root root' node node' : Node} {name : String}
  {entries entries' : List (String × Node)} {bytes : ByteArray}
  {place : List String}

theorem entry?_cons {n : String} :
    entry? name ((n, node) :: entries) =
      if n = name then some node else entry? name entries := rfl

theorem mem_of_entry (h : entry? name entries = some node) :
    (name, node) ∈ entries := by
  induction entries with
  | nil => cases h
  | cons e entries ih =>
      obtain ⟨n, m⟩ := e
      by_cases hn : n = name
      · rw [entry?_cons, if_pos hn, Option.some.injEq] at h
        rw [hn, h]
        exact List.mem_cons_self
      · rw [entry?_cons, if_neg hn] at h
        exact List.mem_cons_of_mem _ (ih h)

/-- Of entries with distinct names, each is found by its own. -/
theorem entry?_eq_some (hdistinct : (entries.map Prod.fst).Nodup) :
    entry? name entries = some node ↔ (name, node) ∈ entries := by
  refine ⟨mem_of_entry, ?_⟩
  intro hmem
  induction entries with
  | nil => cases hmem
  | cons e entries ih =>
      obtain ⟨n, m⟩ := e
      rw [List.map_cons, List.nodup_cons] at hdistinct
      rcases List.mem_cons.mp hmem with heq | hmem
      · cases heq
        rw [entry?_cons, if_pos rfl]
      · have hn : n ≠ name := by
          intro heq
          have hname := List.mem_map_of_mem (f := Prod.fst) hmem
          exact hdistinct.1 (heq ▸ hname)
        rw [entry?_cons, if_neg hn]
        exact ih hdistinct.2 hmem

/-- Their order does not matter. -/
theorem entry?_perm (h : entries.Perm entries')
    (hdistinct : (entries.map Prod.fst).Nodup) :
    entry? name entries = entry? name entries' := by
  have hdistinct' : (entries'.map Prod.fst).Nodup :=
    (h.map Prod.fst).nodup_iff.mp hdistinct
  ext node
  rw [entry?_eq_some hdistinct, entry?_eq_some hdistinct', h.mem_iff]

/-- Where one node is replaced, its name finds the new one and other names
find what they found. -/
theorem entry?_replace {before after : List (String × Node)} {n : String} :
    entry? name (before ++ (n, node) :: after)
        = entry? name (before ++ (n, node') :: after) ∨
      entry? name (before ++ (n, node) :: after) = some node ∧
        entry? name (before ++ (n, node') :: after) = some node' := by
  induction before with
  | nil =>
      rw [List.nil_append, List.nil_append, entry?_cons, entry?_cons]
      by_cases hn : n = name
      · rw [if_pos hn, if_pos hn]
        exact .inr ⟨rfl, rfl⟩
      · rw [if_neg hn, if_neg hn]
        exact .inl rfl
  | cons e before ih =>
      obtain ⟨k, m⟩ := e
      rw [List.cons_append, List.cons_append, entry?_cons, entry?_cons]
      by_cases hk : k = name
      · rw [if_pos hk, if_pos hk]
        exact .inl rfl
      · rw [if_neg hk, if_neg hk]
        exact ih

/-! ## §2. Places. -/

@[simp] theorem find?_nil (root : Node) : root.find? [] = some root := by
  cases root <;> rfl

@[simp] theorem find?_folder_cons :
    (folder entries).find? (name :: place)
      = ( entry? name entries).bind (·.find? place) := by
  rw [find?]
  cases entry? name entries <;> rfl

/-- A place below another is found from there. -/
theorem find?_append (root : Node) (place rest : List String) :
    root.find? (place ++ rest) = (root.find? place).bind (·.find? rest) := by
  induction place generalizing root with
  | nil => rw [List.nil_append, find?_nil, Option.bind_some]
  | cons name place ih =>
      cases root with
      | file bytes => rfl
      | folder entries =>
          rw [List.cons_append, find?_folder_cons, find?_folder_cons]
          cases entry? name entries with
          | none => rfl
          | some node => exact ih node

theorem WellFormed.of_entry (h : (Node.folder entries).WellFormed)
    (hentry : entry? name entries = some node) : node.WellFormed := by
  cases h with
  | folder _ _ below => exact below _ (mem_of_entry hentry)

theorem WellFormed.of_find? (place : List String) :
    ∀ {root : Node}, root.WellFormed → root.find? place = some node →
      node.WellFormed := by
  induction place with
  | nil =>
      intro root h hfind
      rw [find?_nil, Option.some.injEq] at hfind
      exact hfind ▸ h
  | cons name place ih =>
      intro root h hfind
      cases root with
      | file bytes => cases hfind
      | folder entries =>
          rw [find?_folder_cons, Option.bind_eq_some_iff] at hfind
          obtain ⟨m, hm, hfind⟩ := hfind
          exact ih (h.of_entry hm) hfind

/-- All names on the way to something are names of files. -/
theorem WellFormed.isFileName_of_find? (place : List String) :
    ∀ {root : Node}, root.WellFormed → root.find? place = some node →
      ∀ name ∈ place, IsFileName name := by
  induction place with
  | nil =>
      intro root _ _ name hname
      cases hname
  | cons n place ih =>
      intro root h hfind
      cases root with
      | file bytes => cases hfind
      | folder entries =>
          rw [find?_folder_cons, Option.bind_eq_some_iff] at hfind
          obtain ⟨m, hm, hfind⟩ := hfind
          refine List.forall_mem_cons.mpr ⟨?_, ih (h.of_entry hm) hfind⟩
          cases h with
          | folder _ names _ => exact names _ (mem_of_entry hm)

/-! ## §3. Rearranged trees. -/

/-- The same tree with its entries listed in another order: one folder after
another, here or below, lists its entries anew. -/
inductive Rearranged : Node → Node → Prop where
  | refl (node : Node) : Rearranged node node
  | entries {entries entries' : List (String × Node)}
      (h : entries.Perm entries') :
      Rearranged (.folder entries) (.folder entries')
  | inside {before after : List (String × Node)} {name : String}
      {node node' : Node} (h : Rearranged node node') :
      Rearranged (.folder (before ++ (name, node) :: after))
        (.folder (before ++ (name, node') :: after))
  | trans {a b c : Node} (h₁ : Rearranged a b) (h₂ : Rearranged b c) :
      Rearranged a c

/-- A file stays as it is, and a folder stays a folder. -/
theorem Rearranged.kind (h : Rearranged node node') :
    (∃ bytes, node = .file bytes ∧ node' = .file bytes) ∨
      ∃ entries entries', node = .folder entries ∧
        node' = .folder entries' := by
  induction h with
  | refl node =>
      cases node with
      | file bytes => exact .inl ⟨bytes, rfl, rfl⟩
      | folder entries => exact .inr ⟨entries, entries, rfl, rfl⟩
  | entries => exact .inr ⟨_, _, rfl, rfl⟩
  | inside => exact .inr ⟨_, _, rfl, rfl⟩
  | trans _ _ ih₁ ih₂ =>
      rcases ih₁ with ⟨bytes, rfl, rfl⟩ | ⟨entries, entries', rfl, rfl⟩
      · rcases ih₂ with ⟨bytes', heq, rfl⟩ | ⟨_, _, heq, -⟩
        · exact .inl ⟨bytes, rfl, heq.symm⟩
        · cases heq
      · rcases ih₂ with ⟨_, heq, -⟩ | ⟨_, _, -, rfl⟩
        · cases heq
        · exact .inr ⟨_, _, rfl, rfl⟩

theorem WellFormed.rearranged (h : Rearranged node node') :
    node.WellFormed → node'.WellFormed := by
  induction h with
  | refl => exact id
  | @entries es es' hperm =>
      intro h
      cases h with
      | folder distinct names below =>
          refine .folder ((hperm.map Prod.fst).nodup_iff.mp distinct) ?_ ?_
          · intro e he
            exact names e (hperm.mem_iff.mpr he)
          · intro e he
            exact below e (hperm.mem_iff.mpr he)
  | @inside before after name node node' _ ih =>
      intro h
      cases h with
      | folder distinct names below =>
          rw [List.forall_mem_append, List.forall_mem_cons] at names below
          obtain ⟨hbefore, hnode, hafter⟩ := below
          refine .folder (by simpa using distinct) ?_ ?_
          · rw [List.forall_mem_append, List.forall_mem_cons]
            exact names
          · rw [List.forall_mem_append, List.forall_mem_cons]
            exact ⟨hbefore, ih hnode, hafter⟩
  | trans _ _ ih₁ ih₂ => exact ih₂ ∘ ih₁

theorem rel_refl : ∀ found : Option Node, Option.Rel Rearranged found found
  | none => .none
  | some node => .some (.refl node)

theorem rel_trans {a b c : Option Node} (h₁ : Option.Rel Rearranged a b)
    (h₂ : Option.Rel Rearranged b c) : Option.Rel Rearranged a c := by
  cases h₁ with
  | none => exact h₂
  | some hab =>
      cases h₂ with
      | some hbc => exact .some (hab.trans hbc)

/-- What is a file on one side is that file on the other. -/
theorem rel_file {found found' : Option Node}
    (h : Option.Rel Rearranged found found') (bytes : ByteArray) :
    found = some (.file bytes) ↔ found' = some (.file bytes) := by
  cases h with
  | none => rfl
  | some hnode =>
      rcases hnode.kind with ⟨b, rfl, rfl⟩ | ⟨_, _, rfl, rfl⟩
      · rfl
      · simp

theorem rel_isSome {found found' : Option Node}
    (h : Option.Rel Rearranged found found') :
    found.isSome = found'.isSome := by
  cases h <;> rfl

/-- At each place there is the same in both trees, rearranged. -/
theorem find?_rearranged (h : Rearranged root root') :
    root.WellFormed → ∀ place,
      Option.Rel Rearranged (root.find? place) (root'.find? place) := by
  induction h with
  | refl node =>
      intro _ place
      exact rel_refl _
  | @entries es es' hperm =>
      intro h place
      cases place with
      | nil => exact .some (.entries hperm)
      | cons name place =>
          cases h with
          | folder distinct _ _ =>
              rw [find?_folder_cons, find?_folder_cons,
                entry?_perm hperm distinct]
              exact rel_refl _
  | @inside before after n node node' hnode ih =>
      intro h place
      cases place with
      | nil => exact .some (.inside hnode)
      | cons name place =>
          rw [find?_folder_cons, find?_folder_cons]
          have hreplace : entry? name (before ++ (n, node) :: after)
              = entry? name (before ++ (n, node') :: after) ∨ _ :=
            entry?_replace
          rcases hreplace with heq | ⟨hold, hnew⟩
          · rw [heq]
            exact rel_refl _
          · rw [hold, hnew]
            exact ih (h.of_entry hold) place
  | trans h₁ _ ih₁ ih₂ =>
      intro h place
      exact rel_trans (ih₁ h place) (ih₂ (h.rearranged h₁) place)

end Node

/-! ## §4. Paths. -/

section Paths

variable {root root' node : Node} {cwd : List String} {path : String}

/-- One step of a path, told by what is at the place and whether there is
something of the next name. -/
theorem resolveFrom_cons (root : Node) (place : List String) (name : String)
    (rest : List String) :
    resolveFrom root place (name :: rest) =
      match root.find? place with
      | none => .error .notFound
      | some (.file _) => .error .notAFolder
      | some (.folder _) =>
          if staysInPlace name then resolveFrom root place rest
          else if name = ".." then resolveFrom root place.dropLast rest
          else if (root.find? (place ++ [name])).isSome then
            resolveFrom root (place ++ [name]) rest
          else .error .notFound := by
  rw [resolveFrom, Node.find?_append]
  cases root.find? place with
  | none => rfl
  | some node =>
      cases node with
      | file bytes => rfl
      | folder entries =>
          simp only [Option.bind_some, Node.find?_folder_cons, Node.find?_nil,
            Option.bind_fun_some]
          cases Node.entry? name entries <;> rfl

theorem resolveFrom_rearranged (h : root.Rearranged root')
    (hroot : root.WellFormed) (names : List String) :
    ∀ place, resolveFrom root place names = resolveFrom root' place names := by
  induction names with
  | nil => intro place; rfl
  | cons name names ih =>
      intro place
      rw [resolveFrom_cons, resolveFrom_cons, ih, ih, ih,
        Node.rel_isSome (Node.find?_rearranged h hroot (place ++ [name]))]
      have hplace := Node.find?_rearranged h hroot place
      generalize root.find? place = found,
        root'.find? place = found' at hplace ⊢
      cases hplace with
      | none => rfl
      | some hnode =>
          rcases hnode.kind with ⟨b, rfl, rfl⟩ | ⟨_, _, rfl, rfl⟩ <;> rfl

/-- A path leads to the same place in both trees. -/
theorem resolve_rearranged (h : root.Rearranged root')
    (hroot : root.WellFormed) :
    resolve root cwd path = resolve root' cwd path :=
  resolveFrom_rearranged h hroot _ _

/-- What a path means in one tree, it means in the other, rearranged. -/
theorem nodeAt_rearranged (h : root.Rearranged root')
    (hroot : root.WellFormed) (hnode : nodeAt root cwd path = .ok node) :
    ∃ node', nodeAt root' cwd path = .ok node' ∧ node.Rearranged node' := by
  unfold nodeAt at hnode ⊢
  rw [← resolve_rearranged h hroot]
  cases hplace : resolve root cwd path with
  | error e =>
      rw [hplace] at hnode
      cases hnode
  | ok place =>
      rw [hplace] at hnode
      have hrel := Node.find?_rearranged h hroot place
      dsimp only at hnode ⊢
      generalize root.find? place = found,
        root'.find? place = found' at hrel hnode ⊢
      cases hrel with
      | none => cases hnode
      | some hab =>
          cases hnode
          exact ⟨_, rfl, hab⟩

theorem wellFormed_of_nodeAt (hroot : root.WellFormed)
    (hnode : nodeAt root cwd path = .ok node) : node.WellFormed := by
  unfold nodeAt at hnode
  split at hnode
  · cases hnode
  · split at hnode
    · next hfind =>
        cases hnode
        exact hroot.of_find? _ hfind
    · cases hnode

end Paths

end SchemaTables.Files
