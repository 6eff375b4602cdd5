/-
  SchemaTables.Sdl.Reading
  ────────────────────────
  **READING A DOCUMENT.**

  `Document.parse` matches the whole text against the grammar and only then
  looks at what the grammar cannot say: a schema definition names the query
  root, each root at most once, and every number fits.  Of several such faults
  the first in the text is reported.
-/
import SchemaTables.Sdl.Document
import SchemaTables.Sdl.Grammar
import SchemaTables.Sdl.NumberRange
import SchemaTables.Sdl.StringValue

namespace SchemaTables.Sdl

open Text

/-! ## §1. Faults. -/

/-- The operations that have a root type. -/
inductive RootKind where
  | query
  | mutation
  | subscription
  deriving DecidableEq, Repr

/-- The word for an operation. -/
def RootKind.word : RootKind → String
  | .query => "query"
  | .mutation => "mutation"
  | .subscription => "subscription"

/-- The operation of a word of the grammar. -/
def RootKind.ofTree (t : ParseTree Rule) : RootKind :=
  if t.string = "query" then .query
  else if t.string = "mutation" then .mutation
  else .subscription

/-- Why a text is no document. -/
inductive Fault where
  | unexpected
  | missingQueryRoot
  | repeatedRoot (kind : RootKind)
  /-- A number out of range, with the length of its literal. -/
  | numberRange (length : Nat)
  deriving DecidableEq, Repr

/-- What is said about a fault. -/
def Fault.message : Fault → String
  | .unexpected => "unexpected text"
  | .missingQueryRoot => "schema definition is missing query root"
  | .repeatedRoot kind =>
      "multiple " ++ kind.word ++ " roots in schema definition"
  | .numberRange n =>
      "invalid number: number out of range at line 1 column " ++ toString n

/-- A fault and its place. -/
structure SyntaxError where
  position : Position
  fault : Fault
  deriving DecidableEq, Repr

/-! ## §2. Parts of a tree. -/

/-- The place of a rule in the text. -/
def positionOf (text : List Char) (t : ParseTree Rule) : Position :=
  .afterText (text.take t.start)

/-- The name that a rule gives. -/
def nameOf (t : ParseTree Rule) : String :=
  ((t.child? .name).map ParseTree.string).getD ""

/-- The text that a string writes. -/
def stringOf (t : ParseTree Rule) : String :=
  match t.child? .blockContent with
  | some content => String.ofList (blockText content.text)
  | none =>
      match t.child? .lineContent with
      | some content => String.ofList (unescape content.text)
      | none => ""

mutual

/-- A constant value. -/
def valueOf : ParseTree Rule → Value
  | .node .number _ text _ => .number (String.ofList text)
  | .node .string start text children =>
      .string (stringOf (.node .string start text children))
  | .node .boolean _ text _ => .boolean (text.head? = some 't')
  | .node .enumValue _ text _ => .enum (String.ofList text)
  | .node .list _ _ children => .list (valuesOf children)
  | .node .object _ _ children => .object (memberValues children)
  | .node .value _ _ children => (valuesOf children).head?.getD .null
  | .node _ _ _ _ => .null

/-- The values of several trees. -/
def valuesOf : List (ParseTree Rule) → List Value
  | [] => []
  | t :: ts => valueOf t :: valuesOf ts

/-- The value of the first member, where a name stands in front of it. -/
def memberValues : List (ParseTree Rule) → List (String × Value)
  | [] => []
  | .node r start text children :: ts =>
      (nameOf (.node r start text children),
        (valuesOf children).getLast?.getD .null) :: memberValues ts

end

/-- A directive. -/
def directiveOf (t : ParseTree Rule) : Directive where
  name := nameOf t
  arguments :=
    match t.child? .arguments with
    | some arguments => memberValues (arguments.childrenOf .argument)
    | none => []

/-- The directives of a definition. -/
def directivesOf (t : ParseTree Rule) : List Directive :=
  match t.child? .directives with
  | some directives => (directives.childrenOf .directive).map directiveOf
  | none => []

/-- The type that a definition refers to. -/
def typeOf (t : ParseTree Rule) : TypeRef :=
  ((t.child? .typeRef).bind fun r => TypeRef.ofString? r.string).getD
    (.named "" true)

/-! ## §3. Definitions. -/

/-- A field. -/
def fieldOf (text : List Char) (t : ParseTree Rule) : FieldDefinition where
  position := positionOf text t
  description := (t.child? .string).map stringOf
  name := nameOf t
  type := typeOf t
  directives := directivesOf t

/-- An object type or an extension of one. -/
def objectOf (text : List Char) (t : ParseTree Rule) : ObjectType where
  position := positionOf text t
  isExtension := (t.child? .extension).isSome
  name := nameOf t
  directives := directivesOf t
  fields :=
    match t.child? .fields with
    | some fields => (fields.childrenOf .field).map (fieldOf text)
    | none => []

/-- The roots that a schema definition names, with their places. -/
def rootsOf (text : List Char) (t : ParseTree Rule) :
    List (RootKind × String × Position) :=
  (t.childrenOf .rootDefinition).filterMap fun r =>
    (r.child? .rootKind).map fun kind =>
      (.ofTree kind, nameOf r, positionOf text kind)

/-- A schema definition. -/
def schemaOf (text : List Char) (t : ParseTree Rule) : SchemaDefinition :=
  let root (kind : RootKind) : Option String :=
    ((rootsOf text t).find? fun r => r.1 = kind).map fun r => r.2.1
  { position := positionOf text t
    isExtension := (t.child? .extension).isSome
    query := root .query
    mutation := root .mutation
    subscription := root .subscription }

/-- A definition. -/
def definitionOf (text : List Char) (t : ParseTree Rule) : Definition :=
  match t.child? .schemaDefinition, t.child? .typeDefinition with
  | some s, _ => .schema (schemaOf text s)
  | none, some d =>
      match d.child? .objectType, d.children with
      | some o, _ => .object (objectOf text o)
      | none, other :: _ => .other (nameOf other)
      | none, [] => .other ""
  | none, none =>
      .other (((t.child? .directiveDefinition).map nameOf).getD "")

/-! ## §4. What the grammar cannot say. -/

/-- The numbers out of range in a tree. -/
def numberFaults (text : List Char) (t : ParseTree Rule) : List SyntaxError :=
  t.flatten.filterMap fun n =>
    if n.rule = .number && isOutOfRange n.text then
      some ⟨positionOf text n, .numberRange n.text.length⟩
    else none

/-- The roots named twice. -/
def repeatedRoots (seen : List RootKind) :
    List (RootKind × String × Position) → List SyntaxError
  | [] => []
  | (kind, _, position) :: rest =>
      if seen.contains kind then
        ⟨position, .repeatedRoot kind⟩ :: repeatedRoots seen rest
      else repeatedRoots (kind :: seen) rest

/-- The faults of a schema definition: those of its directives come before
those of its roots. -/
def schemaFaults (text : List Char) (t : ParseTree Rule) : List SyntaxError :=
  let s := schemaOf text t
  numberFaults text t ++ repeatedRoots [] (rootsOf text t) ++
    if !s.isExtension && s.query.isNone then
      [⟨s.position, .missingQueryRoot⟩]
    else []

/-- The faults of a definition. -/
def definitionFaults (text : List Char) (t : ParseTree Rule) :
    List SyntaxError :=
  match t.child? .schemaDefinition with
  | some s => schemaFaults text s
  | none => numberFaults text t

/-- Read a document from its text. -/
def Document.parse (source : String) : Except SyntaxError Document :=
  let text := source.toList
  match parseTree text with
  | .error offset => .error ⟨.afterLines (text.take offset), .unexpected⟩
  | .ok tree =>
      let definitions := tree.childrenOf .definition
      match definitions.flatMap (definitionFaults text) with
      | fault :: _ => .error fault
      | [] => .ok ⟨definitions.map (definitionOf text)⟩

end SchemaTables.Sdl
