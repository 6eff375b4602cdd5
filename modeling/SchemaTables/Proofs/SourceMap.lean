/-
  SchemaTables.Proofs.SourceMap
  ─────────────────────────────
  **SPANS LIE IN THEIR LINES.**

  Line number `n` of a text is what stands between two line breaks, the first
  of them being break number `n` (`LineAt`).  The lines that a text is split
  into are these, and the offset at which one begins is the length of all that
  stands before it (`splitLines_lineAt`).

  A location in a line of a file therefore has a span, which lies in that file
  and begins in that line (`SourceMap.span?_of_line`).
-/
import SchemaTables.SourceMap

namespace SchemaTables

open Elaboration

/-! ## §1. Lines. -/

/-- Line number `n` of a text, counted from zero, with what stands before and
after it. -/
structure LineAt (text : List Char) (n : Nat)
    (before line after : List Char) : Prop where
  text : text = before ++ (line ++ after)
  breaks : before.count '\n' = n
  starts : before = [] ∨ ∃ cs, before = cs ++ ['\n']
  unbroken : '\n' ∉ line
  ends : after = [] ∨ ∃ cs, after = '\n' :: cs

section Lines

variable {n : Nat} {text before line after : List Char}

theorem lineStart_cons_succ (l : List Char) (ls : List (List Char))
    (n : Nat) :
    lineStart (l :: ls) (n + 1) = l.length + 1 + lineStart ls n := by
  -- the offset that the sum starts from comes out of it
  have key : ∀ (ls : List (List Char)) (k : Nat),
      ls.foldl (fun offset line => offset + line.length + 1) k =
        k + ls.foldl (fun offset line => offset + line.length + 1) 0 := by
    intro ls
    induction ls with
    | nil => intro k; rfl
    | cons l ls ih =>
        intro k
        rw [List.foldl_cons, List.foldl_cons, ih, ih (0 + l.length + 1)]
        omega
  unfold lineStart
  rw [List.take_succ_cons, List.foldl_cons, key]
  omega

/-- The lines of a text whose first line has begun. -/
theorem splitLinesFrom_lineAt (text : List Char) :
    ∀ (begun : List Char) (n : Nat) {line : List Char}, '\n' ∉ begun →
      (splitLinesFrom begun text)[n]? = some line →
      ∃ before after, LineAt (begun.reverse ++ text) n before line after ∧
        before.length = lineStart (splitLinesFrom begun text) n := by
  induction text with
  | nil =>
      intro begun n line hbegun h
      cases n with
      | zero =>
          cases h
          exact ⟨[], [],
            ⟨rfl, rfl, .inl rfl, by simpa using hbegun, .inl rfl⟩, rfl⟩
      | succ n => cases h
  | cons c rest ih =>
      intro begun n line hbegun h
      unfold splitLinesFrom at h ⊢
      by_cases hc : c = '\n'
      · subst hc
        rw [if_pos rfl] at h ⊢
        cases n with
        | zero =>
            cases h
            exact ⟨[], '\n' :: rest, ⟨rfl, rfl, .inl rfl,
              by simpa using hbegun, .inr ⟨rest, rfl⟩⟩, rfl⟩
        | succ n =>
            rw [List.getElem?_cons_succ] at h
            obtain ⟨before, after, hline, hstart⟩ :=
              ih [] n List.not_mem_nil h
            refine ⟨begun.reverse ++ '\n' :: before, after, ?_, ?_⟩
            · constructor
              · rw [List.append_assoc, List.cons_append, ← hline.text]
                rfl
              · have hnone : begun.reverse.count '\n' = 0 :=
                  List.count_eq_zero_of_not_mem (by simpa using hbegun)
                rw [List.count_append, hnone, List.count_cons_self,
                  hline.breaks, Nat.zero_add]
              · right
                rcases hline.starts with rfl | ⟨cs, rfl⟩
                · exact ⟨begun.reverse, rfl⟩
                · exact ⟨begun.reverse ++ '\n' :: cs, by simp⟩
              · exact hline.unbroken
              · exact hline.ends
            · rw [lineStart_cons_succ, ← hstart, List.length_append,
                List.length_cons]
              omega
      · rw [if_neg hc] at h ⊢
        have hbegun' : '\n' ∉ c :: begun := by
          rw [List.mem_cons, not_or]
          exact ⟨fun e => hc e.symm, hbegun⟩
        obtain ⟨before, after, hline, hstart⟩ := ih (c :: begun) n hbegun' h
        rw [List.reverse_cons, List.append_assoc] at hline
        exact ⟨before, after, hline, hstart⟩

/-- A text is split into its lines, and each begins where it stands. -/
theorem splitLines_lineAt (h : (splitLines text)[n]? = some line) :
    ∃ before after, LineAt text n before line after ∧
      before.length = lineStart (splitLines text) n :=
  splitLinesFrom_lineAt text [] n List.not_mem_nil h

/-- The line of an offset is the number of line breaks before it. -/
theorem line_lineColumnOf (text : List Char) (offset : Nat) :
    (lineColumnOf text offset).line = (text.take offset).count '\n' := by
  have key : ∀ (cs : List Char) (p : LineColumn),
      (cs.foldl (fun p c =>
        if c = '\n' then (⟨p.line + 1, 0⟩ : LineColumn)
        else ⟨p.line, p.column + 1⟩) p).line = p.line + cs.count '\n' := by
    intro cs
    induction cs with
    | nil => intro p; rfl
    | cons c cs ih =>
        intro p
        rw [List.foldl_cons, ih]
        by_cases hc : c = '\n'
        · simp [hc]
          omega
        · simp [hc]
  unfold lineColumnOf
  rw [key, Nat.zero_add]

/-- The offsets from the beginning of a line to its end are in that line. -/
theorem LineAt.line_lineColumnOf (h : LineAt text n before line after)
    {k : Nat} (hk : k ≤ line.length) :
    (lineColumnOf text (before.length + k)).line = n := by
  have htake : text.take (before.length + k) = before ++ line.take k := by
    rw [h.text, List.take_length_add_append, List.take_append_of_le_length hk]
  have hnone : (line.take k).count '\n' = 0 :=
    List.count_eq_zero_of_not_mem fun hmem =>
      h.unbroken (List.mem_of_mem_take hmem)
  rw [SchemaTables.line_lineColumnOf, htake, List.count_append, h.breaks,
    hnone, Nat.add_zero]

/-- The places from the beginning of a line to its end. -/
theorem LineAt.place (h : LineAt text n before line after) {k : Nat}
    (hk : k ≤ line.length) :
    lineColumnOf text (before.length + k) = ⟨n, k⟩ := by
  -- columns go on from the last line break
  have hrun : ∀ (cs : List Char) (p : LineColumn), '\n' ∉ cs →
      (cs.foldl (fun p c =>
        if c = '\n' then (⟨p.line + 1, 0⟩ : LineColumn)
        else ⟨p.line, p.column + 1⟩) p).column = p.column + cs.length := by
    intro cs
    induction cs with
    | nil => intro p _; rfl
    | cons c cs ih =>
        intro p hcs
        rw [List.mem_cons, not_or] at hcs
        rw [List.foldl_cons, if_neg fun e => hcs.1 e.symm, ih _ hcs.2,
          List.length_cons, Nat.add_assoc, Nat.add_comm 1]
  have htake : text.take (before.length + k) = before ++ line.take k := by
    rw [h.text, List.take_length_add_append, List.take_append_of_le_length hk]
  have hnone : '\n' ∉ line.take k := fun hmem =>
    h.unbroken (List.mem_of_mem_take hmem)
  have hcolumn : (lineColumnOf text (before.length + k)).column = k := by
    unfold lineColumnOf
    rw [htake, List.foldl_append, hrun _ _ hnone, List.length_take,
      Nat.min_eq_left hk]
    rcases h.starts with rfl | ⟨cs, rfl⟩
    · exact Nat.zero_add k
    · rw [List.foldl_append]
      exact Nat.zero_add k
  exact (LineColumn.mk.injEq ..).mpr ⟨h.line_lineColumnOf hk, hcolumn⟩

/-- Every offset is in a line. -/
theorem exists_lineAt (cs ds : List Char) :
    ∃ before l l' after, cs = before ++ l ∧ ds = l' ++ after ∧
      LineAt (cs ++ ds) (cs.count '\n') before (l ++ l') after := by
  -- the last line of what stands before
  have hlast : ∃ before l, cs = before ++ l ∧ '\n' ∉ l ∧
      (before = [] ∨ ∃ cs', before = cs' ++ ['\n']) := by
    induction cs with
    | nil => exact ⟨[], [], rfl, List.not_mem_nil, .inl rfl⟩
    | cons c cs ih =>
        obtain ⟨before, l, rfl, hl, rfl | ⟨cs', rfl⟩⟩ := ih
        · by_cases hc : c = '\n'
          · exact ⟨['\n'], l, by rw [hc]; rfl, hl, .inr ⟨[], rfl⟩⟩
          · refine ⟨[], c :: l, rfl, ?_, .inl rfl⟩
            rw [List.mem_cons, not_or]
            exact ⟨fun e => hc e.symm, hl⟩
        · exact ⟨c :: cs' ++ ['\n'], l, rfl, hl, .inr ⟨c :: cs', rfl⟩⟩
  -- the first line of what stands behind
  have hfirst : ∃ l' after, ds = l' ++ after ∧ '\n' ∉ l' ∧
      (after = [] ∨ ∃ ds', after = '\n' :: ds') := by
    induction ds with
    | nil => exact ⟨[], [], rfl, List.not_mem_nil, .inl rfl⟩
    | cons d ds ih =>
        by_cases hd : d = '\n'
        · exact ⟨[], d :: ds, rfl, List.not_mem_nil, .inr ⟨ds, by rw [hd]⟩⟩
        · obtain ⟨l', after, rfl, hl', hafter⟩ := ih
          refine ⟨d :: l', after, rfl, ?_, hafter⟩
          rw [List.mem_cons, not_or]
          exact ⟨fun e => hd e.symm, hl'⟩
  obtain ⟨before, l, rfl, hl, hbefore⟩ := hlast
  obtain ⟨l', after, rfl, hl', hafter⟩ := hfirst
  refine ⟨before, l, l', after, rfl, rfl, ?_, ?_, hbefore, ?_, hafter⟩
  · simp only [List.append_assoc]
  · rw [List.count_append, List.count_eq_zero_of_not_mem hl, Nat.add_zero]
  · rw [List.mem_append, not_or]
    exact ⟨hl, hl'⟩

theorem length_trimLineEnd_le (line : List Char) :
    (trimLineEnd line).length ≤ line.length := by
  unfold trimLineEnd
  rw [List.length_reverse]
  calc _ ≤ line.reverse.length := (List.dropWhile_sublist _).length_le
    _ = line.length := List.length_reverse

end Lines

/-! ## §2. Spans. -/

/-- The position is in one of the lines of the text. -/
def Sdl.Position.Within (text : List Char) (p : Sdl.Position) : Prop :=
  1 ≤ p.line ∧ p.line ≤ (splitLines text).length

/-- The span lies in the file of the location, and begins in its line. -/
structure Span.LiesAt (m : SourceMap) (location : Location) (s : Span) :
    Prop where
  file : s.file = location.document
  inside : ∃ f, m.files[s.file]? = some f ∧ s.start ≤ s.stop ∧
    s.stop ≤ f.text.toList.length
  line : ∃ view, m.view? s = some view ∧
    view.start.line + 1 = location.position.line

/-- The span from a location to the end of its line. -/
theorem SourceMap.span?_eq {m : SourceMap} {location : Location}
    {file : SourceFile} {line : List Char}
    (hfile : m.files[location.document]? = some file)
    (hpos : location.position.line ≠ 0)
    (hline : (splitLines file.text.toList)[location.position.line - 1]?
      = some line) :
    m.span? location =
      let start := lineStart (splitLines file.text.toList)
        (location.position.line - 1)
      let stop := (trimLineEnd line).length
      some ⟨location.document,
        start + min (location.position.column - 1) stop, start + stop⟩ := by
  unfold SourceMap.span?
  simp [hfile, hpos, hline]

theorem SourceMap.view?_eq {m : SourceMap} {s : Span} {file : SourceFile}
    (hfile : m.files[s.file]? = some file) :
    m.view? s = some {
      path := file.path
      start := lineColumnOf file.text.toList s.start
      stop := lineColumnOf file.text.toList s.stop
      text := String.ofList
        ((file.text.toList.drop s.start).take (s.stop - s.start)) } := by
  unfold SourceMap.view?
  simp [hfile]

/-- A location in a line of its file has a span. -/
theorem SourceMap.span?_of_line {m : SourceMap} {location : Location}
    {file : SourceFile} (hfile : m.files[location.document]? = some file)
    (hline : location.position.Within file.text.toList) :
    ∃ s, m.span? location = some s ∧ s.LiesAt m location := by
  obtain ⟨hpos, hle⟩ := hline
  have hlt : location.position.line - 1
      < (splitLines file.text.toList).length := by omega
  obtain ⟨line, hget⟩ : ∃ line, (splitLines file.text.toList)[
      location.position.line - 1]? = some line :=
    ⟨_, List.getElem?_eq_getElem hlt⟩
  obtain ⟨before, after, hat, hstart⟩ := splitLines_lineAt hget
  have hvisible := length_trimLineEnd_le line
  have hlength := congrArg List.length hat.text
  rw [List.length_append, List.length_append] at hlength
  refine ⟨_, SourceMap.span?_eq hfile (by omega) hget, rfl,
    ⟨file, hfile, ?_, ?_⟩, _, SourceMap.view?_eq hfile, ?_⟩
  · dsimp only
    omega
  · dsimp only
    omega
  · -- the column is at most the end of the line
    have hcolumn : min (location.position.column - 1)
        (trimLineEnd line).length ≤ line.length := by omega
    dsimp only
    rw [← hstart, hat.line_lineColumnOf hcolumn]
    omega

end SchemaTables
