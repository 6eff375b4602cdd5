/-
  SchemaTables.Proofs.CodeMap.Laws
  ────────────────────────────────
  **WHAT A CODE MAP PROMISES.**

  The positions of a file are those behind its prefixes: a prefix that takes
  so many bytes (`byteLength`) ends that far behind the begin of the file.
  The laws of code maps (`CodeMaps.Laws`) speak about lines and regions through
  the texts before, in and behind them, so no byte is ever counted twice.

  The laws do not say where a file is placed.  They are met by code maps that
  number the bytes of all files one after the other
  (`SchemaTables.bytePositions_laws`).
-/
import SchemaTables.CodeMap
import SchemaTables.Proofs.SourceMap

namespace SchemaTables

open Elaboration

/-! ## §1. Bytes of a text. -/

/-- The bytes that characters take in UTF-8. -/
def byteLength : List Char → Nat
  | [] => 0
  | c :: cs => c.utf8Size + byteLength cs

@[simp] theorem byteLength_nil : byteLength [] = 0 := rfl

@[simp] theorem byteLength_cons (c : Char) (cs : List Char) :
    byteLength (c :: cs) = c.utf8Size + byteLength cs := rfl

@[simp] theorem byteLength_append (cs ds : List Char) :
    byteLength (cs ++ ds) = byteLength cs + byteLength ds := by
  induction cs with
  | nil => simp
  | cons c cs ih => simp [ih, Nat.add_assoc]

theorem byteLength_ofList (cs : List Char) :
    (String.ofList cs).utf8ByteSize = byteLength cs := by
  induction cs with
  | nil => rfl
  | cons c cs ih =>
      have hcons : String.ofList (c :: cs) =
          String.singleton c ++ String.ofList cs := by
        rw [String.singleton_eq_ofList, ← String.ofList_append]
        rfl
      rw [hcons, String.utf8ByteSize_append, String.utf8ByteSize_singleton,
        ih, byteLength_cons]

/-- The bytes of a string are those of its characters. -/
theorem byteLength_toList (s : String) :
    byteLength s.toList = s.utf8ByteSize := by
  rw [← byteLength_ofList, String.ofList_toList]

theorem byteLength_take_le (cs : List Char) (k : Nat) :
    byteLength (cs.take k) ≤ byteLength cs := by
  have h := congrArg byteLength (List.take_append_drop k cs)
  rw [byteLength_append] at h
  omega

/-- The offset of a character is the length of what stands before it. -/
theorem getElem?_charIndicesFrom (cs : List Char) :
    ∀ offset k, (charIndicesFrom offset cs)[k]? =
      cs[k]?.map fun c => (offset + byteLength (cs.take k), c) := by
  induction cs with
  | nil => intro offset k; rfl
  | cons c cs ih =>
      intro offset k
      cases k with
      | zero => rfl
      | succ k =>
          rw [charIndicesFrom, List.getElem?_cons_succ, ih,
            List.getElem?_cons_succ, List.take_succ_cons, byteLength_cons,
            Nat.add_assoc]

/-- Columns are counted in characters, and go up to the end of the line. -/
theorem CodeMaps.columnOffset_eq (line : List Char) (column : Nat) :
    columnOffset (String.ofList line) column =
      byteLength (line.take (min (column - 1) line.length)) := by
  unfold columnOffset
  rw [String.toList_ofList, getElem?_charIndicesFrom, byteLength_ofList]
  by_cases h : column - 1 < line.length
  · rw [List.getElem?_eq_getElem h, Nat.min_eq_left (by omega)]
    exact Nat.zero_add _
  · rw [List.getElem?_eq_none (by omega), Nat.min_eq_right (by omega),
      List.take_length]
    rfl

/-- The positions that texts take: one for each byte, and one for each end. -/
def positionsOf : List String → Nat
  | [] => 0
  | text :: rest => text.utf8ByteSize + 1 + positionsOf rest

theorem positionsOf_append (xs ys : List String) :
    positionsOf (xs ++ ys) = positionsOf xs + positionsOf ys := by
  induction xs with
  | nil => exact (Nat.zero_add _).symm
  | cons x xs ih =>
      simp only [List.cons_append, positionsOf, ih]
      omega

/-! ## §2. The laws. -/

namespace CodeMaps

variable {Map File : Type}

/-- The code maps that one gets by adding files, with these files. -/
inductive Reaches (ops : CodeMaps Map File) : Map → List File → Prop where
  | empty : ops.Reaches ops.empty []
  | add {map map' : Map} {files : List File} {file : File}
      {name text : String} : ops.Reaches map files →
      ops.addFile map name text = .ok (map', file) →
      ops.Reaches map' (files ++ [file])

/-- The region of a file behind `before`, as long as `part`. -/
def regionOf (ops : CodeMaps Map File) (file : File)
    (before part : List Char) : Region :=
  let low := (ops.region file).low + byteLength before
  ⟨low, low + byteLength part⟩

/-- What code maps promise. -/
structure Laws (ops : CodeMaps Map File) : Prop where
  /-- Files can be added as long as positions are numbers of 32 bits. -/
  addFile : ∀ {map : Map} {files : List File} (name text : String),
    ops.Reaches map files →
    positionsOf (files.map ops.source ++ [text]) < 4294967296 →
    ∃ map' file, ops.addFile map name text = .ok (map', file) ∧
      ops.name file = name ∧ ops.source file = text
  /-- Lines are separated by line feeds. -/
  numLines : ∀ file, ops.numLines file =
    (ops.source file).toList.count '\n' + 1
  /-- The text of a line comes without its end. -/
  sourceLine : ∀ {file : File} {n : Nat} {before line after : List Char},
    LineAt (ops.source file).toList n before line after →
    ops.sourceLine file n = .ok (String.ofList (trimLineEnd line))
  /-- The region of a line includes its line feed, if it has one. -/
  lineRegion : ∀ {file : File} {n : Nat} {before line after : List Char},
    LineAt (ops.source file).toList n before line after →
    ops.lineRegion file n =
      .ok (ops.regionOf file before (line ++ after.take 1))
  /-- A part of a region does not end before its begin, nor behind the
  region. -/
  subregion : ∀ (r : Region) {start stop : Nat}, start ≤ stop →
    r.low + stop ≤ r.high →
    ops.subregion r start stop = .ok ⟨r.low + start, r.low + stop⟩
  /-- A region is found in its file, at the places of its two ends. -/
  lookUp : ∀ {map : Map} {files : List File} {file : File}
    {before part after : List Char}, ops.Reaches map files → file ∈ files →
    (ops.source file).toList = before ++ (part ++ after) →
    ops.lookUp map (ops.regionOf file before part) = .ok {
      file := file
      start := lineColumnOf (ops.source file).toList before.length
      stop := lineColumnOf (ops.source file).toList
        (before.length + part.length) }
  /-- The text of a region. -/
  slice : ∀ {file : File} {before part after : List Char},
    (ops.source file).toList = before ++ (part ++ after) →
    ops.slice file (ops.regionOf file before part) = .ok (String.ofList part)

end CodeMaps

end SchemaTables
