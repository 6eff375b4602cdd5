/-
  SchemaTables.Json
  ─────────────────
  **JSON VALUES.**

  An object is a list of members in the order in which they are written, for
  the models are ordered maps and their text form keeps the order.  A number
  is kept as its literal: nothing here computes with numbers.

  A record is read either from an object, by the names of its members, or
  from an array holding the members in order (`Json.record?`); members that
  the record does not know are ignored.
-/
import SchemaTables.OrderedMap

namespace SchemaTables

/-- A JSON value. -/
inductive Json where
  | null
  | bool (value : Bool)
  | number (literal : String)
  | string (value : String)
  | array (items : List Json)
  | object (members : List (String × Json))
  deriving Inhabited

namespace Json

/-! ## §1. Writing. -/

/-- A text, or `null` for an absent one. -/
def ofString? : Option String → Json
  | some s => .string s
  | none => .null

/-- An object with one member per entry, in order. -/
def ofMap {α : Type} (value : α → Json) (m : OrderedMap α) : Json :=
  .object (m.entries.map fun e => (e.1, value e.2))

/-! ## §2. Reading. -/

/-- The text of a string. -/
def string? : Json → Option String
  | .string s => some s
  | _ => none

/-- The value of a boolean. -/
def bool? : Json → Option Bool
  | .bool b => some b
  | _ => none

/-- The items of an array. -/
def array? : Json → Option (List Json)
  | .array items => some items
  | _ => none

/-- An optional value: `null` is absence, anything else is read by `read`. -/
def optional? {α : Type} (read : Json → Option α) : Json → Option (Option α)
  | .null => some none
  | j => (read j).map some

/-- An object whose members are all read by `read`. -/
def map? {α : Type} (read : Json → Option α) : Json → Option (OrderedMap α)
  | .object members =>
      (members.mapM fun m => (read m.2).map fun a => (m.1, a)).map
        OrderedMap.ofList
  | _ => none

/-- The members `names` of a record, `none` for a member that an object does
not have.  An array must hold exactly the members, in order. -/
def record? (names : List String) : Json → Option (List (Option Json))
  | .object members => some (names.map fun n => lookupEntry n members)
  | .array items =>
      if items.length = names.length then some (items.map some) else none
  | _ => none

/-- The word that stands for an alternative without contents: a string, or
an object with one member of that name that is `null`. -/
def tag? : Json → Option String
  | .string s => some s
  | .object [(s, .null)] => some s
  | _ => none

end Json

end SchemaTables
