/-
  SchemaTables.Proofs.CodeMap.BytePositions
  ─────────────────────────────────────────
  **GLOBAL BYTE POSITIONS ARE LAWFUL.**

  A cut behind a prefix goes through (`splitBytes_append`), so the text of a
  region is what stands between its two cuts (`PlacedFile.slice_regionOf`).
  As many lines start before a position as there are line feeds before it,
  and one (`PlacedFile.countP_lineStarts`), so a position is in the line that
  it stands in (`PlacedFile.placeOf_eq`).  Files lie one behind the other, no
  position belongs to two of them (`BytePositions.fileOf_eq`).

  Together these are the laws of code maps (`bytePositions_laws`).
-/
import SchemaTables.BytePositions
import SchemaTables.Proofs.CodeMap.Laws
import SchemaTables.Proofs.Steps

namespace SchemaTables

/-! ## §1. Cuts and line starts. -/

/-- A cut behind a prefix gives back the prefix. -/
theorem splitBytes_append (cs ds : List Char) :
    splitBytes (cs ++ ds) (byteLength cs) = some (cs, ds) := by
  induction cs with
  | nil => cases ds <;> rfl
  | cons c cs ih =>
      have hpos := c.utf8Size_pos
      rw [List.cons_append, byteLength_cons, splitBytes, if_neg (by omega),
        if_neg (by omega), Nat.add_sub_cancel_left, ih]
      rfl

theorem lineStartsFrom_append (cs ds : List Char) :
    ∀ position, lineStartsFrom position (cs ++ ds) =
      lineStartsFrom position cs ++
        lineStartsFrom (position + byteLength cs) ds := by
  induction cs with
  | nil => intro position; rfl
  | cons c cs ih =>
      intro position
      by_cases hc : c = '\n' <;>
        simp [lineStartsFrom, hc, ih, Nat.add_assoc]

theorem length_lineStartsFrom (cs : List Char) :
    ∀ position, (lineStartsFrom position cs).length = cs.count '\n' := by
  induction cs with
  | nil => intro position; rfl
  | cons c cs ih =>
      intro position
      by_cases hc : c = '\n' <;> simp [lineStartsFrom, hc, ih]

/-- Lines start behind the position, and not behind the end of the text. -/
theorem bounds_of_mem_lineStartsFrom (cs : List Char) :
    ∀ {position start}, start ∈ lineStartsFrom position cs →
      position < start ∧ start ≤ position + byteLength cs := by
  induction cs with
  | nil => intro position start h; cases h
  | cons c cs ih =>
      intro position start h
      have hpos := c.utf8Size_pos
      have hrest : start ∈ lineStartsFrom (position + c.utf8Size) cs →
          position < start ∧
            start ≤ position + byteLength (c :: cs) := by
        intro hmem
        obtain ⟨hlow, hhigh⟩ := ih hmem
        rw [byteLength_cons]
        omega
      unfold lineStartsFrom at h
      split at h
      · rcases List.mem_cons.mp h with rfl | hmem
        · rw [byteLength_cons]
          omega
        · exact hrest hmem
      · exact hrest h

/-- No line starts in a text without line feeds. -/
theorem lineStartsFrom_of_unbroken {cs : List Char} (h : '\n' ∉ cs)
    (position : Nat) : lineStartsFrom position cs = [] := by
  apply List.eq_nil_of_length_eq_zero
  rw [length_lineStartsFrom, List.count_eq_zero_of_not_mem h]

/-! ## §2. One file. -/

namespace PlacedFile

variable {f : PlacedFile} {n : Nat} {before line part after : List Char}

theorem high_eq (f : PlacedFile) :
    f.high = f.low + byteLength f.source.toList := by
  rw [byteLength_toList]
  rfl

theorem regionOf_eq (f : PlacedFile) (before part : List Char) :
    bytePositions.regionOf f before part =
      ⟨f.low + byteLength before,
        f.low + byteLength before + byteLength part⟩ := rfl

/-- The text of a region stands between its two cuts. -/
theorem slice_regionOf (h : f.source.toList = before ++ (part ++ after)) :
    f.slice (bytePositions.regionOf f before part) =
      .ok (String.ofList part) := by
  have hbytes := congrArg byteLength h
  rw [byteLength_append, byteLength_append] at hbytes
  have hhigh := f.high_eq
  have hlow : f.low + byteLength before - f.low = byteLength before := by
    omega
  have hlength : f.low + byteLength before + byteLength part -
      (f.low + byteLength before) = byteLength part := by omega
  rw [regionOf_eq]
  unfold slice
  dsimp only
  rw [if_neg (by omega), if_neg (by omega), h, hlow, splitBytes_append]
  dsimp only
  rw [hlength, splitBytes_append]

/-- A line starts behind the text before it. -/
theorem lineStarts_getElem? (h : LineAt f.source.toList n before line after) :
    f.lineStarts[n]? = some (f.low + byteLength before) ∧
      f.lineStarts[n + 1]?.getD f.high =
        f.low + byteLength before + byteLength (line ++ after.take 1) := by
  have hline : lineStartsFrom (f.low + byteLength before) line = [] :=
    lineStartsFrom_of_unbroken h.unbroken _
  -- the starts up to this line, and those behind it
  have hstarts : f.lineStarts =
      (f.low :: lineStartsFrom f.low before) ++
        lineStartsFrom (f.low + byteLength before + byteLength line)
          after := by
    unfold lineStarts
    rw [h.text, lineStartsFrom_append, lineStartsFrom_append, hline]
    rfl
  have hlength : (f.low :: lineStartsFrom f.low before).length = n + 1 := by
    rw [List.length_cons, length_lineStartsFrom, h.breaks]
  constructor
  · rw [hstarts, List.getElem?_append_left (by omega)]
    rcases h.starts with rfl | ⟨cs, rfl⟩
    · rw [← h.breaks]
      rfl
    · -- the start of this line is the last one so far
      have hlast : f.low :: lineStartsFrom f.low (cs ++ ['\n']) =
          (f.low :: lineStartsFrom f.low cs) ++
            [f.low + byteLength (cs ++ ['\n'])] := by
        rw [lineStartsFrom_append, byteLength_append, ← Nat.add_assoc]
        rfl
      rw [hlast, List.length_append, List.length_singleton,
        Nat.add_right_cancel_iff] at hlength
      rw [hlast, List.getElem?_append_right (by omega), hlength,
        Nat.sub_self]
      rfl
  · rw [hstarts, List.getElem?_append_right (by omega), hlength,
      Nat.sub_self]
    rcases h.ends with rfl | ⟨cs, rfl⟩
    · have htext := congrArg byteLength h.text
      rw [byteLength_append] at htext
      rw [f.high_eq, htext, ← Nat.add_assoc]
      rfl
    · rw [byteLength_append, ← Nat.add_assoc]
      rfl

theorem lineRegion_eq (h : LineAt f.source.toList n before line after) :
    f.lineRegion n =
      .ok (bytePositions.regionOf f before (line ++ after.take 1)) := by
  obtain ⟨hlow, hhigh⟩ := lineStarts_getElem? h
  unfold lineRegion
  rw [hlow]
  dsimp only
  rw [hhigh]
  rfl

/-- The text of a line with its line feed. -/
theorem slice_line (h : LineAt f.source.toList n before line after) :
    f.slice (bytePositions.regionOf f before (line ++ after.take 1)) =
      .ok (String.ofList (line ++ after.take 1)) := by
  have htext : f.source.toList =
      before ++ ((line ++ after.take 1) ++ after.drop 1) := by
    rw [h.text, List.append_assoc line, List.take_append_drop]
  exact slice_regionOf htext

/-- The line feed is trimmed with the end of the line. -/
theorem trimLineEnd_append (h : after = [] ∨ ∃ cs, after = '\n' :: cs) :
    trimLineEnd (line ++ after.take 1) = trimLineEnd line := by
  rcases h with rfl | ⟨cs, rfl⟩
  · rw [List.take_nil, List.append_nil]
  · unfold trimLineEnd
    rw [List.take_succ_cons, List.take_zero, List.reverse_append]
    rfl

theorem sourceLine_eq (h : LineAt f.source.toList n before line after) :
    f.sourceLine n = .ok (String.ofList (trimLineEnd line)) := by
  refine bind_eq_ok.mpr ⟨_, lineRegion_eq h,
    bind_eq_ok.mpr ⟨_, slice_line h, ?_⟩⟩
  rw [String.toList_ofList, trimLineEnd_append h.ends]
  rfl

/-- As many lines start up to a position as there are line feeds before it,
and one. -/
theorem countP_lineStarts (h : f.source.toList = before ++ after) :
    f.lineStarts.countP (· ≤ f.low + byteLength before) =
      before.count '\n' + 1 := by
  have hbefore : (lineStartsFrom f.low before).countP
      (· ≤ f.low + byteLength before) = before.count '\n' := by
    rw [← length_lineStartsFrom before f.low, List.countP_eq_length]
    intro start hstart
    exact decide_eq_true (bounds_of_mem_lineStartsFrom before hstart).2
  have hafter : (lineStartsFrom (f.low + byteLength before) after).countP
      (· ≤ f.low + byteLength before) = 0 := by
    rw [List.countP_eq_zero]
    intro start hstart
    have := (bounds_of_mem_lineStartsFrom after hstart).1
    simpa using this
  unfold lineStarts
  rw [h, lineStartsFrom_append, List.countP_cons, List.countP_append, hbefore,
    hafter, if_pos (by simp)]

/-- A position has the line and the column of the text before it. -/
theorem placeOf_eq (h : f.source.toList = before ++ after) :
    f.placeOf (f.low + byteLength before) =
      .ok (lineColumnOf f.source.toList before.length) := by
  have hbytes := congrArg byteLength h
  rw [byteLength_append] at hbytes
  have hhigh := f.high_eq
  have hcount := countP_lineStarts h
  obtain ⟨cs, l, l', ds, rfl, rfl, hat⟩ := exists_lineAt before after
  rw [← h] at hat
  have hplace : lineColumnOf f.source.toList (cs ++ l).length =
      ⟨(cs ++ l).count '\n', l.length⟩ := by
    rw [List.length_append]
    apply hat.place
    rw [List.length_append]
    omega
  have hoffset : f.low + byteLength (cs ++ l) - (f.low + byteLength cs) =
      byteLength l := by
    rw [byteLength_append]
    omega
  -- the position is as far into its line as the text before it in the line
  unfold placeOf
  rw [if_neg (by omega), hcount, Nat.add_sub_cancel]
  refine bind_eq_ok.mpr ⟨_, lineRegion_eq hat,
    bind_eq_ok.mpr ⟨_, slice_line hat, ?_⟩⟩
  rw [regionOf_eq]
  dsimp only
  rw [hoffset, String.toList_ofList, List.append_assoc, splitBytes_append,
    hplace]
  rfl

end PlacedFile

/-! ## §3. Files one behind the other. -/

namespace BytePositions

open PlacedFile

/-- Files of which each begins behind the end of the one before it. -/
structure Placed (files : List PlacedFile) : Prop where
  apart : files.Pairwise (·.high < ·.low)
  inside : ∀ f ∈ files, f.high ≤ lastPosition files
  taken : lastPosition files = positionsOf (files.map PlacedFile.source)

theorem placed_nil : Placed [] where
  apart := .nil
  inside _ h := absurd h List.not_mem_nil
  taken := rfl

theorem lastPosition_append (files : List PlacedFile) (f : PlacedFile) :
    lastPosition (files ++ [f]) = f.high := by
  unfold lastPosition
  rw [List.getLast?_concat]
  rfl

theorem Placed.append {files : List PlacedFile} {f : PlacedFile}
    (h : Placed files) (hlow : f.low = lastPosition files + 1) :
    Placed (files ++ [f]) where
  apart := by
    rw [List.pairwise_append]
    refine ⟨h.apart, List.pairwise_singleton .., fun g hg f' hf' => ?_⟩
    rw [List.mem_singleton.mp hf', hlow]
    exact Nat.lt_succ_of_le (h.inside g hg)
  inside := by
    intro g hg
    rw [lastPosition_append]
    have hend : f.low ≤ f.high := Nat.le_add_right ..
    rcases List.mem_append.mp hg with hg | hg
    · have := h.inside g hg
      omega
    · exact List.mem_singleton.mp hg ▸ Nat.le_refl _
  taken := by
    rw [lastPosition_append, List.map_append, positionsOf_append, ← h.taken]
    unfold PlacedFile.high
    rw [hlow]
    simp only [List.map_cons, List.map_nil, positionsOf]
    omega

/-- A code map consists of its files, one behind the other. -/
theorem placed_of_reaches {map files : List PlacedFile}
    (h : bytePositions.Reaches map files) : map = files ∧ Placed files := by
  induction h with
  | empty => exact ⟨rfl, placed_nil⟩
  | @add map map' files file name text _ hadd ih =>
      obtain ⟨rfl, hplaced⟩ := ih
      change addFile map name text = .ok (map', file) at hadd
      unfold addFile at hadd
      dsimp only at hadd
      split at hadd
      · cases hadd
        exact ⟨rfl, hplaced.append rfl⟩
      · cases hadd

/-- A position belongs to one file. -/
theorem fileOf_eq {files : List PlacedFile} (h : Placed files)
    {f : PlacedFile} (hf : f ∈ files) {position : Nat}
    (hlow : f.low ≤ position) (hhigh : position ≤ f.high) :
    fileOf files position = .ok f := by
  obtain ⟨before, after, rfl⟩ := List.append_of_mem hf
  have hfind : (before ++ f :: after).find?
      (fun f => f.low ≤ position ∧ position ≤ f.high) = some f := by
    rw [List.find?_eq_some_iff_append]
    refine ⟨by simpa using ⟨hlow, hhigh⟩, before, after, rfl, ?_⟩
    intro g hg
    -- the files before it have ended before it begins
    have hapart : g.high < f.low :=
      (List.pairwise_append.mp h.apart).2.2 g hg f List.mem_cons_self
    have hnot : ¬ position ≤ g.high := by omega
    simp [hnot]
  unfold fileOf
  rw [hfind]

/-- A region of a file is found there. -/
theorem lookUp_eq {files : List PlacedFile} (h : Placed files)
    {f : PlacedFile} (hf : f ∈ files) {before part after : List Char}
    (htext : f.source.toList = before ++ (part ++ after)) :
    lookUp files (bytePositions.regionOf f before part) = .ok {
      file := f
      start := lineColumnOf f.source.toList before.length
      stop := lineColumnOf f.source.toList
        (before.length + part.length) } := by
  have hbytes := congrArg byteLength htext
  rw [byteLength_append, byteLength_append] at hbytes
  have hhigh := f.high_eq
  have hstart := placeOf_eq htext
  have hsplit : f.source.toList = (before ++ part) ++ after := by
    rw [htext, List.append_assoc]
  have hstop := placeOf_eq hsplit
  rw [byteLength_append, ← Nat.add_assoc, List.length_append] at hstop
  -- the end of a file is one of its positions, so both ends are in it
  have hfirst : fileOf files (f.low + byteLength before) = .ok f :=
    fileOf_eq h hf (by omega) (by omega)
  have hlast : fileOf files
      (f.low + byteLength before + byteLength part) = .ok f :=
    fileOf_eq h hf (by omega) (by omega)
  rw [regionOf_eq]
  exact bind_eq_ok.mpr ⟨_, hfirst, bind_eq_ok.mpr ⟨_, hstart,
    bind_eq_ok.mpr ⟨_, hlast, bind_eq_ok.mpr ⟨_, hstop, rfl⟩⟩⟩⟩

end BytePositions

open BytePositions PlacedFile in
/-- Code maps by byte positions keep the laws. -/
theorem bytePositions_laws : bytePositions.Laws where
  addFile := by
    intro map files name text hreaches hfits
    obtain ⟨rfl, hplaced⟩ := placed_of_reaches hreaches
    refine ⟨_, ⟨name, text, lastPosition map + 1⟩, if_pos ?_, rfl, rfl⟩
    -- the new file ends where its bytes and its end are counted
    change positionsOf (map.map PlacedFile.source ++ [text]) < _ at hfits
    rw [positionsOf_append, ← hplaced.taken] at hfits
    unfold PlacedFile.high
    simp only [positionsOf] at hfits
    dsimp only
    omega
  numLines := by
    intro f
    change f.lineStarts.length = _
    unfold lineStarts
    rw [List.length_cons, length_lineStartsFrom]
    rfl
  sourceLine := sourceLine_eq
  lineRegion := lineRegion_eq
  subregion := by
    intro r start stop horder hinside
    change subregion r start stop = _
    unfold subregion
    rw [if_neg (by omega), if_neg (by omega)]
  lookUp := by
    intro map files f before part after hreaches hf htext
    obtain ⟨rfl, hplaced⟩ := placed_of_reaches hreaches
    exact lookUp_eq hplaced hf htext
  slice := slice_regionOf

end SchemaTables
