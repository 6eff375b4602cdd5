/-
  SchemaTables.Proofs.CodeMap.Spans
  ─────────────────────────────────
  **NO SPAN VIOLATES THE CODE MAP.**

  Files whose bytes and ends have numbers of 32 bits can be put into any code
  map that keeps the laws (`CodeMaps.Laws`), and every location then has an
  answer: none if it is in no line of its file, and otherwise a region that
  covers the visible rest of its line (`CodeMaps.span_shows`).

  Columns are offsets in characters, regions in bytes; between the two stands
  the part of the line before the column, whose bytes are counted
  (`CodeMaps.columnOffset_eq`).  Looked up in the code map, a region shows
  what `SourceMap.view?` shows of the span of the location.
-/
import SchemaTables.Proofs.CodeMap.BytePositions

namespace SchemaTables

open Elaboration

/-! ## §1. What a location shows. -/

/-- A line of the file without the line break at its end. -/
def SourceFile.visibleLine (file : SourceFile) (n : Nat) : List Char :=
  trimLineEnd ((splitLines file.text.toList)[n]?.getD [])

/-- The rest of the line of a position, from its column on. -/
def SourceFile.restOfLine (file : SourceFile) (p : Sdl.Position) : SpanView :=
  let line := file.visibleLine (p.line - 1)
  let column := min (max p.column 1 - 1) line.length
  { path := file.path
    start := ⟨p.line - 1, column⟩
    stop := ⟨p.line - 1, line.length⟩
    text := String.ofList (line.drop column) }

/-- The location is in no line of the files. -/
def NoLine (files : List SourceFile) (location : Location) : Prop :=
  files.length ≤ location.document ∨ location.position.line = 0 ∨
    ∃ file, files[location.document]? = some file ∧
      file.text.toList.count '\n' + 1 < location.position.line

/-- What is trimmed stands at the end of the line. -/
theorem exists_trimmed (line : List Char) :
    ∃ ends, line = trimLineEnd line ++ ends := by
  let isEnd : Char → Bool := fun c => c = '\r' || c = '\n'
  have h := List.takeWhile_append_dropWhile (p := isEnd) (l := line.reverse)
  refine ⟨(line.reverse.takeWhile isEnd).reverse, ?_⟩
  have hreverse := congrArg List.reverse h
  rw [List.reverse_append, List.reverse_reverse] at hreverse
  exact hreverse.symm

section Lines

variable {file : SourceFile} {before line after : List Char} {n : Nat}

/-- Every other location is in a line of its file. -/
theorem exists_line_of_not_noLine {files : List SourceFile}
    {location : Location} (h : ¬ NoLine files location) :
    ∃ file line, files[location.document]? = some file ∧
      location.position.line ≠ 0 ∧
      (splitLines file.text.toList)[location.position.line - 1]? =
        some line := by
  unfold NoLine at h
  rw [not_or, not_or] at h
  obtain ⟨hdocument, hline, hbreaks⟩ := h
  obtain ⟨file, hfile⟩ : ∃ file, files[location.document]? = some file :=
    ⟨_, List.getElem?_eq_getElem (Nat.lt_of_not_le hdocument)⟩
  have hcount : location.position.line ≤ file.text.toList.count '\n' + 1 :=
    Nat.le_of_not_lt fun hlt => hbreaks ⟨file, hfile, hlt⟩
  have hlt : location.position.line - 1 <
      (splitLines file.text.toList).length := by
    rw [length_splitLines]
    omega
  exact ⟨file, _, hfile, hline, List.getElem?_eq_getElem hlt⟩

/-- The span of a location covers the rest of its line. -/
theorem SourceMap.view?_span? {files : List SourceFile} {location : Location}
    (hfile : files[location.document]? = some file)
    (hpos : location.position.line ≠ 0)
    (hline : (splitLines file.text.toList)[location.position.line - 1]? =
      some line) :
    ((SourceMap.mk files).span? location).bind (SourceMap.mk files).view? =
      some (file.restOfLine location.position) := by
  obtain ⟨before, after, hat, hstart⟩ := splitLines_lineAt hline
  obtain ⟨ends, hends⟩ := exists_trimmed line
  have hvisible : file.visibleLine (location.position.line - 1) =
      trimLineEnd line := by
    unfold SourceFile.visibleLine
    rw [hline]
    rfl
  have hlength := length_trimLineEnd_le line
  generalize hk : min (location.position.column - 1)
    (trimLineEnd line).length = k
  have hcolumn : min (max location.position.column 1 - 1)
      (trimLineEnd line).length = k := by omega
  have htext : ((file.text.toList.drop (before.length + k)).take
      (before.length + (trimLineEnd line).length - (before.length + k))) =
        (trimLineEnd line).drop k := by
    have hsplit : file.text.toList = before ++ (trimLineEnd line ++
        (ends ++ after)) := by
      rw [← List.append_assoc (trimLineEnd line), ← hends]
      exact hat.text
    have hdiff : before.length + (trimLineEnd line).length -
        (before.length + k) = ((trimLineEnd line).drop k).length := by
      rw [List.length_drop]
      omega
    rw [hsplit, hdiff, List.drop_length_add_append,
      List.drop_append_of_le_length (by omega), List.take_left]
  rw [SourceMap.span?_eq (m := ⟨files⟩) hfile hpos hline, Option.bind_some,
    SourceMap.view?_eq (m := ⟨files⟩) hfile]
  unfold SourceFile.restOfLine
  dsimp only
  rw [hk, hvisible, hcolumn, ← hstart, htext, hat.place (by omega),
    hat.place hlength]

/-- A location in no line has no span. -/
theorem SourceMap.span?_of_noLine {files : List SourceFile}
    {location : Location} (h : NoLine files location) :
    (SourceMap.mk files).span? location = none := by
  unfold SourceMap.span?
  -- each of the three stops at its own step
  rcases h with hdocument | hline | ⟨file, hfile, hbreaks⟩
  · rw [List.getElem?_eq_none hdocument]
    rfl
  · cases files[location.document]? <;> simp [hline]
  · have hnone : (splitLines file.text.toList)[
        location.position.line - 1]? = none := by
      rw [List.getElem?_eq_none_iff, length_splitLines]
      omega
    simp [hfile, hnone]

end Lines

/-! ## §2. Loaded files. -/

namespace CodeMaps

variable {Map File : Type} {ops : CodeMaps Map File}

/-- The file of the code map has the name and the text of the file read. -/
def IsFile (ops : CodeMaps Map File) (file : SourceFile) (placed : File) :
    Prop :=
  ops.name placed = file.path ∧ ops.source placed = file.text

/-- Files are added as long as there are positions for them. -/
theorem addFiles_eq_ok (laws : ops.Laws) (rest : List SourceFile) :
    ∀ {map : Map} {files : List File}, ops.Reaches map files →
      positionsOf (files.map ops.source ++ rest.map SourceFile.text) <
        4294967296 →
      ∃ loaded, ops.addFiles map rest = .ok loaded ∧
        ops.Reaches loaded.map (files ++ loaded.files) ∧
        List.Forall₂ ops.IsFile rest loaded.files := by
  induction rest with
  | nil =>
      intro map files hreaches _
      exact ⟨⟨map, []⟩, rfl, by rwa [List.append_nil], .nil⟩
  | cons f rest ih =>
      intro map files hreaches hfits
      -- what suffices for all files suffices for the next one
      have hroom : positionsOf (files.map ops.source ++ [f.text]) <
          4294967296 := by
        rw [positionsOf_append] at hfits ⊢
        simp only [List.map_cons, positionsOf] at hfits ⊢
        omega
      obtain ⟨map', placed, hadd, hname, hsource⟩ :=
        laws.addFile f.path f.text hreaches hroom
      have hreaches' := hreaches.add hadd
      obtain ⟨loaded, hloaded, hall, hfiles⟩ := ih hreaches' (by
        rw [List.map_append, List.append_assoc, List.map_cons, List.map_nil,
          hsource]
        exact hfits)
      refine ⟨⟨loaded.map, placed :: loaded.files⟩, ?_, ?_,
        .cons ⟨hname, hsource⟩ hfiles⟩
      · exact bind_eq_ok.mpr ⟨_, hadd, bind_eq_ok.mpr ⟨_, hloaded, rfl⟩⟩
      · rwa [List.append_assoc] at hall

/-! ## §3. Spans. -/

variable {loaded : LoadedFiles Map File} {location : Location} {placed : File}
  {before line after : List Char}

/-- No region is asked for outside the lines of a file. -/
theorem span_of_noLine (laws : ops.Laws) {files : List SourceFile}
    (hfiles : List.Forall₂ ops.IsFile files loaded.files)
    (h : NoLine files location) : ops.span loaded location = .ok none := by
  unfold span
  cases hplaced : loaded.files[location.document]? with
  | none => rfl
  | some placed =>
      obtain ⟨file, hfile, -, hsource⟩ :=
        getElem?_left_of_forall₂ hfiles hplaced
      dsimp only
      by_cases hpos : location.position.line = 0
      · rw [if_pos hpos]
      · rw [if_neg hpos, if_pos]
        rw [laws.numLines, hsource]
        rcases h with hdocument | hline | ⟨file', hfile', hbreaks⟩
        · rw [List.getElem?_eq_none hdocument] at hfile
          cases hfile
        · exact absurd hline hpos
        · cases hfile.symm.trans hfile'
          omega

/-- The region of a location in a line goes from its column to the end of
what is visible of the line. -/
theorem span_of_line (laws : ops.Laws)
    (hplaced : loaded.files[location.document]? = some placed)
    (hpos : location.position.line ≠ 0)
    (h : LineAt (ops.source placed).toList (location.position.line - 1)
      before line after) :
    let visible := trimLineEnd line
    let column := min (location.position.column - 1) visible.length
    ops.span loaded location = .ok (some (ops.regionOf placed
      (before ++ visible.take column) (visible.drop column))) := by
  intro visible column
  obtain ⟨ends, hends⟩ := exists_trimmed line
  have hlines : ¬ ops.numLines placed ≤ location.position.line - 1 := by
    rw [laws.numLines, h.text, List.count_append, h.breaks]
    omega
  -- the visible part is what stands before the column and behind it
  have hparts : byteLength visible = byteLength (visible.take column) +
      byteLength (visible.drop column) := by
    rw [← byteLength_append, List.take_append_drop]
  have hline : byteLength line = byteLength visible + byteLength ends := by
    rw [← byteLength_append, ← hends]
  have hroom : (ops.regionOf placed before (line ++ after.take 1)).low +
      byteLength visible ≤
        (ops.regionOf placed before (line ++ after.take 1)).high := by
    unfold regionOf
    dsimp only
    rw [byteLength_append]
    omega
  have hsub := laws.subregion _ (byteLength_take_le visible column) hroom
  unfold span
  rw [hplaced]
  dsimp only
  rw [if_neg hpos, if_neg hlines]
  refine bind_eq_ok.mpr ⟨_, laws.sourceLine h,
    bind_eq_ok.mpr ⟨_, laws.lineRegion h, bind_eq_ok.mpr ⟨_, ?_, rfl⟩⟩⟩
  rw [columnOffset_eq, byteLength_ofList, hsub, hparts]
  simp only [regionOf, byteLength_append, Nat.add_assoc]

/-- The region of a location in a line is found in its file and line, and its
text is the rest of that line. -/
theorem region_shows (laws : ops.Laws) {file : SourceFile} {files : List File}
    (hreaches : ops.Reaches loaded.map files) (hmem : placed ∈ files)
    (hsource : ops.source placed = file.text) {p : Sdl.Position}
    (hline : (splitLines file.text.toList)[p.line - 1]? = some line)
    (h : LineAt file.text.toList (p.line - 1) before line after) :
    let visible := trimLineEnd line
    let column := min (p.column - 1) visible.length
    let region := ops.regionOf placed (before ++ visible.take column)
      (visible.drop column)
    ops.lookUp loaded.map region = .ok ⟨placed, (file.restOfLine p).start,
        (file.restOfLine p).stop⟩ ∧
      ops.slice placed region = .ok (file.restOfLine p).text := by
  intro visible column region
  obtain ⟨ends, hends⟩ := exists_trimmed line
  have hle : visible.length ≤ line.length := length_trimLineEnd_le line
  have hcolumn : min (max p.column 1 - 1) visible.length = column := by omega
  have hvisible : file.visibleLine (p.line - 1) = visible := by
    unfold SourceFile.visibleLine
    rw [hline]
    rfl
  have htext : (ops.source placed).toList =
      (before ++ visible.take column) ++
        (visible.drop column ++ (ends ++ after)) := by
    rw [hsource, h.text, hends, List.append_assoc, List.append_assoc,
      ← List.append_assoc (visible.take column), List.take_append_drop]
  have hstart : (before ++ visible.take column).length =
      before.length + column := by
    rw [List.length_append, List.length_take,
      Nat.min_eq_left (Nat.min_le_right ..)]
  have hstop : before.length + column + (visible.drop column).length =
      before.length + visible.length := by
    rw [List.length_drop]
    omega
  constructor
  · rw [laws.lookUp hreaches hmem htext, hstart, hstop, hsource,
      h.place (by omega), h.place hle]
    unfold SourceFile.restOfLine
    dsimp only
    rw [hvisible, hcolumn]
  · rw [laws.slice htext]
    unfold SourceFile.restOfLine
    dsimp only
    rw [hvisible, hcolumn]

/-- Every location of files that fit into the code map has an answer: none
outside the lines, and otherwise a region that shows the rest of its line. -/
theorem span_shows (laws : ops.Laws) {files : List SourceFile}
    (hfits : positionsOf (files.map SourceFile.text) < 4294967296) :
    ∃ loaded, ops.load files = .ok loaded ∧ ∀ location : Location,
      ∃ span, ops.span loaded location = .ok span ∧
        (span = none ↔ NoLine files location) ∧
        (∀ region, span = some region → ∃ file placed,
          files[location.document]? = some file ∧
          loaded.files[location.document]? = some placed ∧
          ops.IsFile file placed ∧
          let rest := file.restOfLine location.position
          ops.lookUp loaded.map region =
              .ok ⟨placed, rest.start, rest.stop⟩ ∧
            ops.slice placed region = .ok rest.text) ∧
        ((SourceMap.mk files).span? location).bind
            (SourceMap.mk files).view? =
          span.bind fun _ => files[location.document]?.map
            (·.restOfLine location.position) := by
  obtain ⟨loaded, hloaded, hreaches, hfiles⟩ :=
    addFiles_eq_ok laws files .empty (by simpa using hfits)
  rw [List.nil_append] at hreaches
  refine ⟨loaded, hloaded, fun location => ?_⟩
  by_cases hno : NoLine files location
  · refine ⟨none, span_of_noLine laws hfiles hno, by simp [hno], ?_, ?_⟩
    · intro region hregion
      cases hregion
    · rw [SourceMap.span?_of_noLine hno]
      rfl
  · obtain ⟨file, line, hfile, hpos, hline⟩ := exists_line_of_not_noLine hno
    obtain ⟨before, after, hat, -⟩ := splitLines_lineAt hline
    obtain ⟨placed, hplaced, hisFile⟩ :=
      getElem?_left_of_forall₂ hfiles.flip hfile
    have hspan := span_of_line laws hplaced hpos (hisFile.2 ▸ hat)
    obtain ⟨hlook, hslice⟩ := region_shows laws hreaches
      (List.mem_of_getElem? hplaced) hisFile.2 hline hat
    refine ⟨_, hspan, by simp [hno], ?_, ?_⟩
    · intro region hregion
      cases hregion
      exact ⟨file, placed, hfile, hplaced, hisFile, hlook, hslice⟩
    · rw [SourceMap.view?_span? hfile hpos hline, hfile]
      rfl

/-- A file with carriage returns, and one with a character of two bytes. -/
def accentFiles : List SourceFile :=
  [⟨"a.graphql", "type Author\r\ntype Book"⟩,
    ⟨"b.graphql", "type Écrit # titre\r\n"⟩]

theorem span_shows_accents :
    bytePositions.Laws ∧
      positionsOf (accentFiles.map SourceFile.text) < 4294967296 ∧
      ∃ loaded placed region, bytePositions.load accentFiles = .ok loaded ∧
        loaded.files[1]? = some placed ∧
        bytePositions.span loaded ⟨1, ⟨1, 12⟩⟩ = .ok (some region) ∧
        bytePositions.lookUp loaded.map region =
          .ok ⟨placed, ⟨0, 11⟩, ⟨0, 18⟩⟩ ∧
        bytePositions.slice placed region = .ok "# titre" := by
  have hfits : positionsOf (accentFiles.map SourceFile.text) < 4294967296 := by
    decide +kernel
  refine ⟨bytePositions_laws, hfits, ?_⟩
  obtain ⟨loaded, hload, hlocations⟩ :=
    span_shows bytePositions_laws hfits
  obtain ⟨span, hspan, hnone, hshows, -⟩ := hlocations ⟨1, ⟨1, 12⟩⟩
  cases span with
  | none =>
      -- the second file has a first line
      rcases hnone.mp rfl with hdocument | hline | ⟨file, hfile, hbreaks⟩
      · exact absurd hdocument (by decide)
      · exact absurd hline (by decide)
      · cases hfile
        exact absurd hbreaks (by decide +kernel)
  | some region =>
      obtain ⟨file, placed, hfile, hplaced, -, hlook, hslice⟩ :=
        hshows region rfl
      cases hfile
      have hrest : SourceFile.restOfLine
          ⟨"b.graphql", "type Écrit # titre\r\n"⟩ ⟨1, 12⟩ =
            ⟨"b.graphql", ⟨0, 11⟩, ⟨0, 18⟩, "# titre"⟩ := by
        decide +kernel
      dsimp only at hlook hslice
      rw [hrest] at hlook hslice
      exact ⟨loaded, placed, region, hload, hplaced, hspan, hlook, hslice⟩

end CodeMaps

end SchemaTables
