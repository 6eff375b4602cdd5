/-
  SchemaTables.Sdl.Document
  ─────────────────────────
  **SCHEMA DOCUMENTS.**

  What a document says, as far as entities depend on it: object types with
  their directives and fields, the root operation types that a schema
  definition names, and that there are other definitions.

  A type reference is a name with any number of lists around it, each layer
  with or without null.
-/
import SchemaTables.Sdl.Position

namespace SchemaTables.Sdl

/-! ## §1. Types. -/

/-- A type as a field refers to it. -/
inductive TypeRef where
  | named (name : String) (nullable : Bool)
  | list (item : TypeRef) (nullable : Bool)
  deriving DecidableEq, Repr

namespace TypeRef

/-- May the outermost layer be null? -/
def nullable : TypeRef → Bool
  | .named _ n => n
  | .list _ n => n

/-- Read a type from its text, given last character first: an exclamation
mark at the end forbids null, brackets around the rest make a list, and
anything else is a name.  Each layer takes a character, so that `fuel` never
falls below the length of the text. -/
def ofReversed? : Nat → List Char → Option TypeRef
  | 0, _ => none
  | fuel + 1, cs =>
      let nullable := cs.head? != some '!'
      let body := if nullable then cs else cs.tail
      if body.getLast? = some '[' then
        match body.dropLast with
        | ']' :: inner => (ofReversed? fuel inner).map (.list · nullable)
        | _ => none
      else some (.named (String.ofList body.reverse) nullable)

/-- The type that a text writes. -/
def ofString? (s : String) : Option TypeRef :=
  ofReversed? (s.length + 1) s.toList.reverse

end TypeRef

/-! ## §2. Values and directives. -/

/-- A constant value. -/
inductive Value where
  | null
  | boolean (value : Bool)
  /-- A number, as it is written. -/
  | number (literal : String)
  | string (value : String)
  | enum (name : String)
  | list (items : List Value)
  | object (fields : List (String × Value))

/-- A directive with its arguments. -/
structure Directive where
  name : String
  arguments : List (String × Value)

namespace Directive

/-- The first argument of this name. -/
def argument? (d : Directive) (name : String) : Option Value :=
  (d.arguments.find? fun a => a.1 = name).map Prod.snd

end Directive

/-! ## §3. Definitions. -/

/-- A field of an object type. -/
structure FieldDefinition where
  position : Position
  description : Option String
  name : String
  type : TypeRef
  directives : List Directive

/-- An object type, or an extension of one. -/
structure ObjectType where
  position : Position
  isExtension : Bool
  name : String
  directives : List Directive
  fields : List FieldDefinition

/-- A schema definition: the object types whose fields are operations. -/
structure SchemaDefinition where
  position : Position
  isExtension : Bool
  query : Option String
  mutation : Option String
  subscription : Option String

namespace SchemaDefinition

/-- The root types that the definition names. -/
def roots (s : SchemaDefinition) : List String :=
  s.query.toList ++ s.mutation.toList ++ s.subscription.toList

end SchemaDefinition

/-- A definition of a document. -/
inductive Definition where
  | schema (s : SchemaDefinition)
  | object (o : ObjectType)
  /-- A scalar, interface, union, enumeration or input type, or a
  directive. -/
  | other (name : String)

/-- A document: its definitions in order. -/
structure Document where
  definitions : List Definition

namespace Document

/-- The object types of a document, extensions included. -/
def objects (d : Document) : List ObjectType :=
  d.definitions.filterMap fun
    | .object o => some o
    | _ => none

/-- The root types that the schema definitions of a document name. -/
def roots (d : Document) : List String :=
  d.definitions.flatMap fun
    | .schema s => s.roots
    | _ => []

end Document

end SchemaTables.Sdl
