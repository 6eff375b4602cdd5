/-
  SchemaTables.Proofs.Loading
  ───────────────────────────
  **WHAT IS LOADED DEPENDS ON THE SCHEMA FILES ALONE.**

  Reading a folder gives each of its schema files once, with its text, in the
  order of the paths (`Listing`, `listing_of_read`).  Loading goes on from
  that list, so folders with the same schema files load alike, whatever else
  they hold (`loadSchema_eq_of_reached`), and so do trees that list their
  entries in another order (`loadSchema_rearranged`).

  A file that does not parse is reported as the first such in the list
  (`loadSchema_eq_parse`).  `loadSchema_of_folder` states all of this.
-/
import SchemaTables.Proofs.Files.Discovery
import SchemaTables.Proofs.Parsing

namespace SchemaTables

open Files Sdl Elaboration

variable {root root' : Node} {cwd : List String} {folder pattern : String}
  {entries entries' : List (String × Node)} {found : List FoundFile}
  {files : List SourceFile} {f : FoundFile} {s : SourceFile}
  {options : Options}

/-! ## §1. Decoding. -/

/-- The file, read from the folder above it. -/
structure ReadsAs (folder : String) (f : FoundFile) (s : SourceFile) :
    Prop where
  path : s.path = f.pathBelow folder
  text : decodeText f.bytes = .ok s.text

theorem decodeFiles_cons_ok {text : String}
    (h : decodeText f.bytes = .ok text) :
    decodeFiles folder (f :: found) =
      (decodeFiles folder found).map (⟨f.pathBelow folder, text⟩ :: ·) := by
  rw [decodeFiles, h]

theorem decodeFiles_cons_error {e : FileError}
    (h : decodeText f.bytes = .error e) :
    decodeFiles folder (f :: found) = .error (.file e) := by
  rw [decodeFiles, h]

/-- The files that are decoded are those found, in the same order. -/
theorem forall₂_of_decodeFiles (found : List FoundFile) :
    ∀ {files : List SourceFile}, decodeFiles folder found = .ok files →
      List.Forall₂ (ReadsAs folder) found files := by
  induction found with
  | nil =>
      intro files h
      cases h
      exact .nil
  | cons f found ih =>
      intro files h
      cases hf : decodeText f.bytes with
      | error e =>
          rw [decodeFiles_cons_error hf] at h
          cases h
      | ok text =>
          rw [decodeFiles_cons_ok hf, map_eq_ok] at h
          obtain ⟨rest, hrest, rfl⟩ := h
          exact .cons ⟨rfl, hf⟩ (ih hrest)

theorem paths_of_reads (h : List.Forall₂ (ReadsAs folder) found files) :
    files.map SourceFile.path = found.map (FoundFile.pathBelow folder) := by
  induction h with
  | nil => rfl
  | cons hread _ ih => rw [List.map_cons, List.map_cons, ih, hread.path]

/-- Files that are all texts are decoded. -/
theorem exists_decodeFiles
    (h : ∀ f ∈ found, ∃ text, decodeText f.bytes = .ok text) :
    ∃ files, decodeFiles folder found = .ok files := by
  induction found with
  | nil => exact ⟨[], rfl⟩
  | cons f found ih =>
      obtain ⟨⟨text, hf⟩, hrest⟩ := List.forall_mem_cons.mp h
      obtain ⟨rest, hrest⟩ := ih hrest
      rw [decodeFiles_cons_ok hf, hrest]
      exact ⟨_, rfl⟩

/-- Decoding fails with a file that is no text, and in no other way. -/
theorem file_of_decodeFiles (found : List FoundFile) :
    ∀ {x : LoadError}, decodeFiles folder found = .error x →
      ∃ e, x = .file e := by
  induction found with
  | nil =>
      intro x h
      cases h
  | cons f found ih =>
      intro x h
      cases hf : decodeText f.bytes with
      | error e =>
          rw [decodeFiles_cons_error hf] at h
          cases h
          exact ⟨e, rfl⟩
      | ok text =>
          rw [decodeFiles_cons_ok hf, map_eq_error] at h
          exact ih h

/-! ## §2. Reading a folder. -/

/-- The schema files of the folder with these entries: each that a search
reaches, with its text, in the order of the paths. -/
structure Listing (entries : List (String × Node)) (folder pattern : String)
    (files : List SourceFile) : Prop where
  inOrder : files.Pairwise fun s t =>
    pathBefore (pathNames s.path) (pathNames t.path) = true
  mem : ∀ s, s ∈ files ↔ ∃ f, Reached entries pattern f ∧ ReadsAs folder f s

section Folder

variable (hfolder : nodeAt root cwd folder = .ok (.folder entries))

include hfolder

theorem readSchemaFiles_of_folder :
    readSchemaFiles root cwd folder pattern =
      match discover pattern (.folder entries) with
      | [] => .error (.noFiles folder pattern)
      | files => decodeFiles folder files := by
  cases hfound : discover pattern (.folder entries) <;>
    simp only [readSchemaFiles, hfolder, hfound]

variable (hroot : root.WellFormed)

include hroot

theorem discover_of_folder (pattern : String) :
    InOrder (discover pattern (.folder entries)) ∧
      ∀ f, f ∈ discover pattern (.folder entries) ↔
        Reached entries pattern f :=
  discover_spec pattern (wellFormed_of_nodeAt hroot hfolder)

/-- Where files are reached they are decoded. -/
theorem readSchemaFiles_of_reached (hf : Reached entries pattern f) :
    readSchemaFiles root cwd folder pattern =
      decodeFiles folder (discover pattern (.folder entries)) := by
  have hmem := ((discover_of_folder hfolder hroot pattern).2 f).mpr hf
  rw [readSchemaFiles_of_folder hfolder]
  split
  · next hnone =>
      rw [hnone] at hmem
      cases hmem
  · rfl

/-- Without files to read there is nothing but an error that says so. -/
theorem readSchemaFiles_eq_noFiles :
    readSchemaFiles root cwd folder pattern
        = .error (.noFiles folder pattern) ↔
      ∀ f, ¬ Reached entries pattern f := by
  obtain ⟨-, hmem⟩ := discover_of_folder hfolder hroot pattern
  constructor
  · intro h f hf
    rw [readSchemaFiles_of_reached hfolder hroot hf] at h
    obtain ⟨e, he⟩ := file_of_decodeFiles _ h
    cases he
  · intro hnone
    have hempty : discover pattern (.folder entries) = [] :=
      List.eq_nil_iff_forall_not_mem.mpr fun f hf =>
        hnone f ((hmem f).mp hf)
    rw [readSchemaFiles_of_folder hfolder, hempty]

/-- The paths of files that are reached compare as those from the folder. -/
theorem pathBefore_pathBelow {f g : FoundFile}
    (hf : Reached entries pattern f) (hg : Reached entries pattern g) :
    pathBefore (pathNames (f.pathBelow folder))
        (pathNames (g.pathBelow folder)) = pathBefore f.path g.path := by
  have hnode := wellFormed_of_nodeAt hroot hfolder
  unfold FoundFile.pathBelow
  rw [pathNames_below hf.path_ne_nil
      (hnode.isFileName_of_find? _ hf.isFile),
    pathNames_below hg.path_ne_nil (hnode.isFileName_of_find? _ hg.isFile),
    pathBefore_append_left]

/-- What is read is the list of the schema files. -/
theorem listing_of_read
    (h : readSchemaFiles root cwd folder pattern = .ok files) :
    Listing entries folder pattern files := by
  obtain ⟨horder, hmem⟩ :=
    discover_of_folder hfolder hroot pattern
  have hreads : List.Forall₂ (ReadsAs folder)
      (discover pattern (.folder entries)) files := by
    rw [readSchemaFiles_of_folder hfolder] at h
    split at h
    · cases h
    · exact forall₂_of_decodeFiles _ h
  constructor
  · rw [← List.pairwise_map (f := SourceFile.path)
        (R := fun p q => pathBefore (pathNames p) (pathNames q) = true),
      paths_of_reads hreads, List.pairwise_map]
    refine horder.imp_of_mem ?_
    intro f g hf hg hfg
    rw [pathBefore_pathBelow hfolder hroot ((hmem f).mp hf)
      ((hmem g).mp hg)]
    exact hfg
  · intro s
    constructor
    · intro hs
      obtain ⟨f, hf, hread⟩ := exists_left_of_forall₂ hreads s hs
      exact ⟨f, (hmem f).mp hf, hread⟩
    · intro hs
      obtain ⟨f, hf, hread⟩ := hs
      obtain ⟨t, ht, hread'⟩ :=
        exists_right_of_forall₂ hreads f ((hmem f).mpr hf)
      -- the path and the text determine what is read
      have hpath : s.path = t.path := hread.path.trans hread'.path.symm
      have htext : s.text = t.text :=
        Except.ok.inj (hread.text.symm.trans hread'.text)
      obtain ⟨path, text⟩ := s
      obtain ⟨path', text'⟩ := t
      cases hpath
      cases htext
      exact ht

/-- A folder is read where there are schema files and all are texts. -/
theorem exists_read :
    (∃ files, readSchemaFiles root cwd folder pattern = .ok files) ↔
      (∃ f, Reached entries pattern f) ∧
        ∀ f, Reached entries pattern f →
          ∃ text, decodeText f.bytes = .ok text := by
  obtain ⟨-, hmem⟩ := discover_of_folder hfolder hroot pattern
  constructor
  · intro h
    obtain ⟨files, h⟩ := h
    have hsome : ∃ f, Reached entries pattern f := by
      by_contra hnone
      rw [not_exists] at hnone
      rw [(readSchemaFiles_eq_noFiles hfolder hroot).mpr hnone] at h
      cases h
    refine ⟨hsome, ?_⟩
    intro f hf
    rw [readSchemaFiles_of_reached hfolder hroot hf] at h
    obtain ⟨s, -, hread⟩ := exists_right_of_forall₂
      (forall₂_of_decodeFiles _ h) f ((hmem f).mpr hf)
    exact ⟨s.text, hread.text⟩
  · intro h
    obtain ⟨⟨f, hf⟩, htexts⟩ := h
    rw [readSchemaFiles_of_reached hfolder hroot hf]
    refine exists_decodeFiles ?_
    intro g hg
    exact htexts g ((hmem g).mp hg)

/-! ## §3. Loading a folder. -/

/-- Folders with the same schema files load alike. -/
theorem loadSchema_eq_of_reached (hroot' : root'.WellFormed)
    (hfolder' : nodeAt root' cwd folder = .ok (.folder entries'))
    (hsame : ∀ f, Reached entries pattern f ↔ Reached entries' pattern f) :
    loadSchema root cwd folder pattern options
      = loadSchema root' cwd folder pattern options := by
  have hread : readSchemaFiles root cwd folder pattern
      = readSchemaFiles root' cwd folder pattern := by
    rw [readSchemaFiles_of_folder hfolder, readSchemaFiles_of_folder hfolder',
      discover_eq_of_reached (wellFormed_of_nodeAt hroot hfolder)
        (wellFormed_of_nodeAt hroot' hfolder') hsame]
  unfold loadSchema
  rw [hread]

/-- The order of the entries does not matter. -/
theorem loadSchema_rearranged (h : root.Rearranged root') :
    loadSchema root cwd folder pattern options
      = loadSchema root' cwd folder pattern options := by
  obtain ⟨node, hnode, hsame⟩ := nodeAt_rearranged h hroot hfolder
  rcases hsame.kind with ⟨_, heq, -⟩ | ⟨_, entries', -, rfl⟩
  · cases heq
  · refine loadSchema_eq_of_reached hfolder hroot (hroot.rearranged h) hnode ?_
    intro f
    exact reached_rearranged hsame (wellFormed_of_nodeAt hroot hfolder)

end Folder

/-- Reading reports no fault of a document. -/
theorem readSchemaFiles_ne_parse (p : ParseFailure) :
    readSchemaFiles root cwd folder pattern ≠ .error (.parse p) := by
  intro h
  unfold readSchemaFiles at h
  split at h
  · split at h
    · cases h
    · obtain ⟨e, he⟩ := file_of_decodeFiles _ h
      cases he
  · cases h

theorem loadFiles_eq_parse {p : ParseFailure} :
    (loadFiles options files).result = .error (.parse p) ↔
      ∃ before, FirstUnparsed files before p := by
  unfold loadFiles
  cases hparse : parseFiles files with
  | error x =>
      have hfirst : parseFiles files = .error (.parse p) ↔ _ :=
        parseFiles_eq_error
      rw [hparse, Except.error.injEq] at hfirst
      rw [Except.error.injEq, hfirst]
      simp
  | ok docs =>
      have hnone : ∀ before, ¬ FirstUnparsed files before p := by
        intro before hfirst
        rw [parseFiles_eq_error.mpr ⟨before, p, rfl, hfirst⟩] at hparse
        cases hparse
      dsimp only
      cases (elaborate options docs).result <;> simp [Except.mapError, hnone]

/-- What does not parse is reported with the first file, in the order of the
paths, that does not. -/
theorem loadSchema_eq_parse {p : ParseFailure} :
    (loadSchema root cwd folder pattern options).result = .error (.parse p) ↔
      ∃ files before, readSchemaFiles root cwd folder pattern = .ok files ∧
        FirstUnparsed files before p := by
  unfold loadSchema
  cases hread : readSchemaFiles root cwd folder pattern with
  | error x =>
      constructor
      · intro h
        cases h
        exact absurd hread (readSchemaFiles_ne_parse p)
      · intro h
        obtain ⟨files, before, h, -⟩ := h
        cases h
  | ok files =>
      dsimp only
      rw [loadFiles_eq_parse]
      constructor
      · intro h
        obtain ⟨before, h⟩ := h
        exact ⟨files, before, rfl, h⟩
      · intro h
        obtain ⟨_, before, heq, h⟩ := h
        cases heq
        exact ⟨before, h⟩

/-- A folder is read as the list of its schema files, and loads as that list
does: nothing else in the tree and no order of entries makes a difference, and
the first file that does not parse is the one reported. -/
theorem loadSchema_of_folder (hroot : root.WellFormed)
    (hfolder : nodeAt root cwd folder = .ok (.folder entries))
    (pattern : String) (options : Options) :
    (∀ files, readSchemaFiles root cwd folder pattern = .ok files →
        Listing entries folder pattern files) ∧
      ((∃ files, readSchemaFiles root cwd folder pattern = .ok files) ↔
        (∃ f, Reached entries pattern f) ∧
          ∀ f, Reached entries pattern f →
            ∃ text, decodeText f.bytes = .ok text) ∧
      (readSchemaFiles root cwd folder pattern
          = .error (.noFiles folder pattern) ↔
        ∀ f, ¬ Reached entries pattern f) ∧
      (∀ root' entries', root'.WellFormed →
        nodeAt root' cwd folder = .ok (.folder entries') →
        (∀ f, Reached entries pattern f ↔ Reached entries' pattern f) →
        loadSchema root cwd folder pattern options
          = loadSchema root' cwd folder pattern options) ∧
      (∀ root', root.Rearranged root' →
        loadSchema root cwd folder pattern options
          = loadSchema root' cwd folder pattern options) ∧
      ∀ p, (loadSchema root cwd folder pattern options).result
          = .error (.parse p) ↔
        ∃ files before, readSchemaFiles root cwd folder pattern = .ok files ∧
          FirstUnparsed files before p := by
  refine ⟨?_, exists_read hfolder hroot,
    readSchemaFiles_eq_noFiles hfolder hroot, ?_, ?_, ?_⟩
  · intro files hread
    exact listing_of_read hfolder hroot hread
  · intro root' entries' hroot' hfolder' hsame
    exact loadSchema_eq_of_reached hfolder hroot hroot' hfolder' hsame
  · intro root' h
    exact loadSchema_rearranged hfolder hroot h
  · intro p
    exact loadSchema_eq_parse

/-! ## §4. A shelf. -/

/-- The entries of a folder: schema files in it and below it, one of them with
a hidden name and one that is no document, and one in a hidden folder. -/
def shelfEntries : List (String × Node) :=
  [ ("more.graphql", .file "extend".toUTF8),
    (".old", .folder [("book.graphql", .file "type Book".toUTF8)]),
    ("books", .folder
      [ ("notes.txt", .file "books".toUTF8),
        ("book.graphql", .file "type Book".toUTF8) ]),
    (".author.graphql", .file "type Author".toUTF8) ]

/-- A tree with one folder. -/
def shelfTree (entries : List (String × Node)) : Node :=
  .folder [("shelf", .folder entries)]

theorem shelfTree_wellFormed : (shelfTree shelfEntries).WellFormed := by
  have hold : (Node.folder
      [("book.graphql", .file "type Book".toUTF8)]).WellFormed :=
    .folder (by decide) (by decide +kernel) (by simp [Node.WellFormed.file])
  have hbooks : (Node.folder
      [ ("notes.txt", .file "books".toUTF8),
        ("book.graphql", .file "type Book".toUTF8) ]).WellFormed :=
    .folder (by decide) (by decide +kernel) (by simp [Node.WellFormed.file])
  have hshelf : (Node.folder shelfEntries).WellFormed := by
    refine .folder (by decide) (by decide +kernel) ?_
    simp only [shelfEntries, List.forall_mem_cons]
    exact ⟨.file _, hold, hbooks, .file _, List.forall_mem_nil _⟩
  exact .folder (by decide) (by decide +kernel) (by simp [hshelf])

/-- Three files are read, and the last of them is reported also where the
entries are listed the other way round. -/
theorem loadSchema_of_folder_shelf :
    ∃ files before p,
      readSchemaFiles (shelfTree shelfEntries) [] "shelf" "*.graphql"
        = .ok files ∧
      files.map SourceFile.path = [ "shelf/.author.graphql",
        "shelf/books/book.graphql", "shelf/more.graphql" ] ∧
      Listing shelfEntries "shelf" "*.graphql" files ∧
      (loadSchema (shelfTree shelfEntries.reverse) [] "shelf" "*.graphql"
        {}).result = .error (.parse p) ∧
      FirstUnparsed files before p ∧ p.path = "shelf/more.graphql" := by
  have hfolder : nodeAt (shelfTree shelfEntries) [] "shelf"
      = .ok (.folder shelfEntries) := by
    have hnames : pathNames "shelf" = ["shelf"] := by decide +kernel
    have habsolute : isAbsolute "shelf" = false := by decide +kernel
    unfold nodeAt resolve
    rw [hnames, habsolute]
    rfl
  have hread : (readSchemaFiles (shelfTree shelfEntries) [] "shelf"
      "*.graphql").toOption.map (·.map SourceFile.path)
        = some [ "shelf/.author.graphql", "shelf/books/book.graphql",
            "shelf/more.graphql" ] := by
    decide +kernel
  have hload : (match (loadSchema (shelfTree shelfEntries) [] "shelf"
      "*.graphql" {}).result with
      | .error (.parse p) => some p.path
      | _ => none) = some "shelf/more.graphql" := by
    decide +kernel
  obtain ⟨files, hfiles, hpaths⟩ := Option.map_eq_some_iff.mp hread
  rw [toOption_eq_some] at hfiles
  obtain ⟨p, hp, hpath⟩ : ∃ p, (loadSchema (shelfTree shelfEntries) [] "shelf"
      "*.graphql" {}).result = .error (.parse p) ∧
        p.path = "shelf/more.graphql" := by
    generalize (loadSchema (shelfTree shelfEntries) [] "shelf" "*.graphql"
      {}).result = r at hload
    split at hload
    · exact ⟨_, rfl, Option.some.inj hload⟩
    · cases hload
  obtain ⟨hlisting, -, -, -, hrearranged, hparse⟩ :=
    loadSchema_of_folder shelfTree_wellFormed hfolder "*.graphql" {}
  have hreverse : (shelfTree shelfEntries).Rearranged
      (shelfTree shelfEntries.reverse) := by
    have hentries := Node.Rearranged.entries
      (List.reverse_perm shelfEntries).symm
    exact @Node.Rearranged.inside [] [] "shelf" _ _ hentries
  obtain ⟨files', before, hfiles', hfirst⟩ := (hparse p).mp hp
  rw [hfiles, Except.ok.injEq] at hfiles'
  subst hfiles'
  rw [hrearranged _ hreverse] at hp
  exact ⟨files, before, p, hfiles, hpaths, hlisting files hfiles, hp, hfirst,
    hpath⟩

end SchemaTables
