/-
  SchemaTables.Elaboration.FieldType
  ──────────────────────────────────
  **REDUCING A TYPE TO A NAME AND TWO FLAGS.**

  Storage does not tell where in a type a list or an exclamation mark stands:
  a field holds a list if any layer of its type is one, and must have a value
  if any layer forbids null.  Types of 32 lists and more are refused.
-/
import SchemaTables.Sdl.Document

namespace SchemaTables.Elaboration

open Sdl

/-- A type without its layers. -/
structure FieldType where
  base : String
  disallowsNull : Bool
  isList : Bool
  deriving DecidableEq, Repr

/-- The number of layers that a type may have, its name included. -/
def maxLayers : Nat := 32

/-- Walk down the layers of a type, with the flags of the layers above;
`none` when more than `fuel` layers are left. -/
def flattenLayers (disallowsNull isList : Bool) :
    Nat → TypeRef → Option FieldType
  | 0, _ => none
  | _ + 1, .named name nullable =>
      some ⟨name, disallowsNull || !nullable, isList⟩
  | fuel + 1, .list item nullable =>
      flattenLayers (disallowsNull || !nullable) true fuel item

/-- The name and the flags of a type, or `none` for one nested too deep. -/
def FieldType.of? (t : TypeRef) : Option FieldType :=
  flattenLayers false false maxLayers t

end SchemaTables.Elaboration
