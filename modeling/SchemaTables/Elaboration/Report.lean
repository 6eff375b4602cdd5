/-
  SchemaTables.Elaboration.Report
  ───────────────────────────────
  **RESULTS WITH WARNINGS.**

  A report is a result or an error, along with the warnings given on the way
  to it.  An error ends the work; the warnings given before it stay.
-/
import SchemaTables.Elaboration.Error

namespace SchemaTables.Elaboration

/-- An association on a field of primitive type, which is ignored. -/
structure Warning where
  entity : String
  field : String
  kind : Association
  type : String
  deriving DecidableEq, Repr

/-- The text of a warning. -/
def Warning.message (w : Warning) : String :=
  w.entity ++ "." ++ w.field ++ ": ignoring '" ++ w.kind.keyword
    ++ "' association on primitive type " ++ w.type

/-- A result or an error, with warnings. -/
structure Report (α : Type) where
  warnings : List Warning
  result : Except ElaborationError α

namespace Report

variable {α β : Type}

/-- A result without warnings. -/
def ofResult (r : Except ElaborationError α) : Report α := ⟨[], r⟩

/-- Go on with a result; the warnings of both parts stay. -/
def andThen (r : Report α) (next : α → Report β) : Report β :=
  match r.result with
  | .error e => ⟨r.warnings, .error e⟩
  | .ok a =>
      let rest := next a
      ⟨r.warnings ++ rest.warnings, rest.result⟩

instance : Monad Report where
  pure a := ⟨[], .ok a⟩
  bind := andThen

end Report

end SchemaTables.Elaboration
