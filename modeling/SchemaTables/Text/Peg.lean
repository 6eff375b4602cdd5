/-
  SchemaTables.Text.Peg
  ─────────────────────
  **GRAMMARS OF PARSING EXPRESSIONS.**

  A grammar gives a parsing expression to each of its rules.  Alternatives
  are ordered, repetition takes as much as it can and gives nothing back, and
  `unless` looks ahead without taking anything.

  Between the parts of a sequence and the rounds of a repetition the grammar's
  blanks may stand, unless a rule is `joined` or `solid`.

  A match yields the trees of the rules that took part in it.  Beside the
  result, every step reports the furthest place at which a rule was expected
  and not found (or found where it must not be): that is where the text is
  wrong when nothing matches.  Inside a `solid` rule nothing is reported and
  no trees are made: it is a token.
-/

namespace SchemaTables.Text

/-! ## §1. Expressions and grammars. -/

/-- A parsing expression over the rules `ρ`. -/
inductive Peg (ρ : Type) where
  /-- Exactly these characters. -/
  | chars (cs : List Char)
  /-- One character that passes the test. -/
  | one (test : Char → Bool)
  /-- The end of the text. -/
  | finish
  | call (rule : ρ)
  | seq (first second : Peg ρ)
  | alt (first second : Peg ρ)
  | opt (inner : Peg ρ)
  | many (inner : Peg ρ)
  | unless (inner : Peg ρ)

namespace Peg

variable {ρ : Type}

instance : AndThen (Peg ρ) := ⟨fun a b => .seq a (b ())⟩
instance : OrElse (Peg ρ) := ⟨fun a b => .alt a (b ())⟩

/-- Exactly this word. -/
def word (s : String) : Peg ρ := .chars s.toList

/-- One or more rounds. -/
def many1 (inner : Peg ρ) : Peg ρ := .seq inner (.many inner)

end Peg

/-- What may stand between the parts of a rule. -/
inductive Spacing where
  /-- Blanks. -/
  | loose
  /-- Nothing. -/
  | joined
  /-- Nothing, and the rule as a whole is a token. -/
  | solid
  deriving DecidableEq

/-- The expression of a rule; without a spacing of its own it has that of the
rule that calls it. -/
structure Production (ρ : Type) where
  body : Peg ρ
  spacing : Option Spacing := none

/-- A grammar: its rules, and the number of blank characters that a text
begins with. -/
structure Grammar (ρ : Type) where
  production : ρ → Production ρ
  blanks : List Char → Nat

/-! ## §2. Matches. -/

/-- A rule with the part of the text that it matched. -/
inductive ParseTree (ρ : Type) where
  | node (rule : ρ) (start : Nat) (text : List Char)
      (children : List (ParseTree ρ))

/-- A place in the text and what follows it. -/
structure Cursor where
  offset : Nat
  rest : List Char

/-- The cursor `n` characters on. -/
def Cursor.drop (c : Cursor) (n : Nat) : Cursor :=
  ⟨c.offset + n, c.rest.drop n⟩

/-- The furthest place at which something was expected, and the cursor after
the match with the trees found on the way, last first. -/
structure Outcome (ρ : Type) where
  furthest : Nat
  match? : Option (Cursor × List (ParseTree ρ))

/-- The circumstances of a step. -/
structure Context where
  spacing : Spacing
  /-- Is the step part of a look ahead that must not match? -/
  negated : Bool

/-! ## §3. Matching. -/

namespace Peg

variable {ρ : Type}

/-- Rounds of a repetition after its first, while they match. -/
def rounds (skip : Cursor → Cursor)
    (step : Nat → Cursor → List (ParseTree ρ) → Outcome ρ) :
    Nat → Nat → Cursor → List (ParseTree ρ) → Outcome ρ
  | 0, furthest, c, found => ⟨furthest, some (c, found)⟩
  | fuel + 1, furthest, c, found =>
      let o := step furthest (skip c) found
      match o.match? with
      | none => ⟨o.furthest, some (c, found)⟩
      | some (c', found') =>
          rounds skip step fuel o.furthest c' found'

/-- Match an expression at a cursor, `found` being the trees so far.  `call`
matches a rule. -/
def run (blanks : List Char → Nat)
    (call : ρ → Context → Nat → Cursor → List (ParseTree ρ) → Outcome ρ) :
    Peg ρ → Context → Nat → Cursor → List (ParseTree ρ) → Outcome ρ
  | .chars cs, _, furthest, c, found =>
      if cs.isPrefixOf c.rest then
        ⟨furthest, some (c.drop cs.length, found)⟩
      else ⟨furthest, none⟩
  | .one test, _, furthest, c, found =>
      match c.rest with
      | [] => ⟨furthest, none⟩
      | x :: rest =>
          if test x then ⟨furthest, some (⟨c.offset + 1, rest⟩, found)⟩
          else ⟨furthest, none⟩
  | .finish, _, furthest, c, found =>
      if c.rest.isEmpty then ⟨furthest, some (c, found)⟩
      else ⟨furthest, none⟩
  | .call rule, ctx, furthest, c, found => call rule ctx furthest c found
  | .seq a b, ctx, furthest, c, found =>
      let o := a.run blanks call ctx furthest c found
      match o.match? with
      | none => o
      | some (c', found') =>
          b.run blanks call ctx o.furthest (skip ctx c') found'
  | .alt a b, ctx, furthest, c, found =>
      let o := a.run blanks call ctx furthest c found
      match o.match? with
      | none => b.run blanks call ctx o.furthest c found
      | some _ => o
  | .opt a, ctx, furthest, c, found =>
      let o := a.run blanks call ctx furthest c found
      match o.match? with
      | none => ⟨o.furthest, some (c, found)⟩
      | some _ => o
  | .many a, ctx, furthest, c, found =>
      let o := a.run blanks call ctx furthest c found
      match o.match? with
      | none => ⟨o.furthest, some (c, found)⟩
      | some (c', found') =>
          rounds (skip ctx) (a.run blanks call ctx) c.rest.length
            o.furthest c' found'
  | .unless a, ctx, furthest, c, found =>
      let o :=
        a.run blanks call { ctx with negated := !ctx.negated } furthest c []
      match o.match? with
      | none => ⟨o.furthest, some (c, found)⟩
      | some _ => ⟨o.furthest, none⟩
where
  /-- The cursor after the blanks, where blanks may stand. -/
  skip (ctx : Context) (c : Cursor) : Cursor :=
    if ctx.spacing = .loose then c.drop (blanks c.rest) else c

end Peg

namespace Grammar

variable {ρ : Type}

/-- Match a rule, with calls at most `fuel` deep. -/
def run (g : Grammar ρ) :
    Nat → ρ → Context → Nat → Cursor → List (ParseTree ρ) → Outcome ρ
  | 0, _, _, furthest, _, _ => ⟨furthest, none⟩
  | fuel + 1, rule, ctx, furthest, c, found =>
      let p := g.production rule
      let inner := { ctx with spacing := p.spacing.getD ctx.spacing }
      let o := p.body.run g.blanks (g.run fuel) inner furthest c []
      let reported :=
        (p.spacing = some .joined || ctx.spacing ≠ .solid)
          && o.match?.isSome = ctx.negated
      let furthest := if reported then max o.furthest c.offset else o.furthest
      match o.match? with
      | none => ⟨furthest, none⟩
      | some (c', children) =>
          if ctx.spacing = .solid then ⟨furthest, some (c', found)⟩
          else
            let text := c.rest.take (c'.offset - c.offset)
            ⟨furthest,
              some (c', .node rule c.offset text children.reverse :: found)⟩

/-- Match a rule at the start of a text: its tree, or the furthest place at
which something was expected.  Calls nest at most `perChar` deep for each
character and one more round. -/
def parse (g : Grammar ρ) (perChar : Nat) (rule : ρ) (text : List Char) :
    Except Nat (ParseTree ρ) :=
  let o := g.run (perChar * (text.length + 1)) rule ⟨.loose, false⟩ 0
    ⟨0, text⟩ []
  match o.match? with
  | some (_, tree :: _) => .ok tree
  | _ => .error o.furthest

end Grammar

/-! ## §4. Looking into trees. -/

namespace ParseTree

variable {ρ : Type}

/-- The rule that matched. -/
def rule : ParseTree ρ → ρ
  | .node r _ _ _ => r

/-- Where the match begins. -/
def start : ParseTree ρ → Nat
  | .node _ s _ _ => s

/-- The matched text. -/
def text : ParseTree ρ → List Char
  | .node _ _ t _ => t

/-- The rules called in the match. -/
def children : ParseTree ρ → List (ParseTree ρ)
  | .node _ _ _ cs => cs

/-- The matched text as a string. -/
def string (t : ParseTree ρ) : String := String.ofList t.text

/-- The first child of a rule. -/
def child? [DecidableEq ρ] (t : ParseTree ρ) (r : ρ) : Option (ParseTree ρ) :=
  t.children.find? fun c => c.rule = r

/-- All children of a rule. -/
def childrenOf [DecidableEq ρ] (t : ParseTree ρ) (r : ρ) : List (ParseTree ρ) :=
  t.children.filter fun c => c.rule = r

mutual

/-- The tree and all below it, in the order of the text. -/
def flatten : ParseTree ρ → List (ParseTree ρ)
  | .node r s t cs => .node r s t cs :: flattenAll cs

/-- Several trees and all below them. -/
def flattenAll : List (ParseTree ρ) → List (ParseTree ρ)
  | [] => []
  | t :: ts => flatten t ++ flattenAll ts

end

end ParseTree

end SchemaTables.Text
