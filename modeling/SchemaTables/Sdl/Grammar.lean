/-
  SchemaTables.Sdl.Grammar
  ────────────────────────
  **THE GRAMMAR OF SCHEMA DOCUMENTS.**

  The type system part of GraphQL: schema definitions, definitions and
  extensions of the six kinds of types, and directive definitions.

  Keywords need no blank after them, so `typeBook` declares a type named
  `Book`.  A type reference is a token, and holds no blanks.
-/
import SchemaTables.Text.Peg

namespace SchemaTables.Sdl

open Text

/-! ## §1. Rules. -/

/-- What the parts of a document are called. -/
inductive Rule where
  | document
  | definition
  | schemaDefinition
  | rootDefinition
  | rootKind
  | typeDefinition
  | scalarType
  | objectType
  | interfaceType
  | unionType
  | enumType
  | inputType
  | extension
  | interfaces
  | fields
  | field
  | unionMembers
  | enumValues
  | enumValueDefinition
  | inputFields
  | directiveDefinition
  | repeatable
  | directiveLocations
  | directiveLocation
  | parameters
  | inputValue
  | defaultValue
  | typeRef
  | value
  | number
  | string
  | blockContent
  | lineContent
  | boolean
  | null
  | enumValue
  | list
  | object
  | objectField
  | directives
  | directive
  | arguments
  | argument
  | name
  | endOfText
  deriving DecidableEq

/-! ## §2. Characters. -/

/-- May a name begin with this character? -/
def isNameStart (c : Char) : Bool := c.isAlpha || c = '_'

/-- May a name go on with this character? -/
def isNameRest (c : Char) : Bool := c.isAlphanum || c = '_'

/-- Is this a hexadecimal digit? -/
def isHexDigit (c : Char) : Bool :=
  c.isDigit || ('a' ≤ c && c ≤ 'f') || ('A' ≤ c && c ≤ 'F')

/-- Number of blank characters that a text begins with: blanks, commas, line
ends, byte order marks, and comments, which run to the end of the line. -/
def blankLength (cs : List Char) : Nat := go false cs
where
  /-- As `blankLength`, beginning inside or outside a comment. -/
  go (comment : Bool) : List Char → Nat
    | [] => 0
    | c :: rest =>
        if c = '\n' || c = '\r' then 1 + go false rest
        else if comment then 1 + go true rest
        else if c = '#' then 1 + go true rest
        else if c = ' ' || c = ',' || c = '\t' || c.toNat = 0xFEFF then
          1 + go false rest
        else 0

/-! ## §3. Tokens. -/

open Peg

/-- One of these characters. -/
def oneOf (s : String) : Peg Rule := .one fun c => s.toList.contains c

/-- One decimal digit. -/
def digit : Peg Rule := .one Char.isDigit

/-- An integer without needless zeros in front. -/
def integer : Peg Rule :=
  .opt (word "-") >> (word "0" <|> oneOf "123456789" >> .many digit)

/-- The digits after the point. -/
def fraction : Peg Rule := word "." >> many1 digit

/-- A power of ten. -/
def exponent : Peg Rule := oneOf "Ee" >> .opt (oneOf "+-") >> many1 digit

/-- A number that is no integer. -/
def decimal : Peg Rule :=
  integer >> (fraction >> exponent <|> fraction <|> exponent)

/-- Four hexadecimal digits that write no surrogate. -/
def hexScalar : Peg Rule :=
  .unless (oneOf "dD" >> oneOf "89abcdefABCDEF") >> .one isHexDigit
    >> .one isHexDigit >> .one isHexDigit >> .one isHexDigit

/-- A character between two quotes. -/
def lineCharacter : Peg Rule :=
  .one (fun c => !("\"\\\r\n".toList.contains c))
    <|> word "\\" >> oneOf "\"\\/bfnrt"
    <|> word "\\u" >> hexScalar

/-- A character between two triple quotes. -/
def blockCharacter : Peg Rule :=
  .unless (word "\"\"\"" <|> word "\\\"\"\"") >> .one (fun _ => true)
    <|> word "\\\"\"\""

/-! ## §4. The grammar. -/

/-- A call of a rule. -/
def the (r : Rule) : Peg Rule := .call r

/-- A call of a rule, or nothing. -/
def maybe (r : Rule) : Peg Rule := .opt (.call r)

/-- A type definition: with its keyword, name and contents, or as an
extension, which must bring something. -/
def typeRule (keyword : String) (contents added : Peg Rule) : Peg Rule :=
  maybe .string >> word keyword >> the .name >> contents
    <|> the .extension >> word keyword >> the .name >> added

/-- Directives and a body, one of which may be missing. -/
def directivesAnd (body : Rule) : Peg Rule :=
  maybe .directives >> the body <|> the .directives

/-- One or more rounds of a rule between two words. -/
def enclosed (opening : String) (r : Rule) (closing : String) : Peg Rule :=
  word opening >> many1 (the r) >> word closing

/-- Rules separated by a word, which may also stand in front. -/
def separated (separator : String) (r : Rule) : Peg Rule :=
  .opt (word separator) >> the r >> .many (word separator >> the r)

/-- The parts of a document. -/
def Rule.body : Rule → Peg Rule
  -- blanks may also stand in front of the first definition
  | .document => .chars [] >> many1 (the .definition) >> the .endOfText
  | .definition =>
      the .schemaDefinition <|> the .typeDefinition
        <|> the .directiveDefinition
  | .schemaDefinition =>
      word "schema" >> maybe .directives
          >> enclosed "\x7b" .rootDefinition "\x7d"
        <|> the .extension >> word "schema"
          >> (maybe .directives >> enclosed "\x7b" .rootDefinition "\x7d"
            <|> the .directives)
  | .rootDefinition => the .rootKind >> word ":" >> the .name
  | .rootKind => word "query" <|> word "mutation" <|> word "subscription"
  | .typeDefinition =>
      the .scalarType <|> the .objectType <|> the .interfaceType
        <|> the .unionType <|> the .enumType <|> the .inputType
  | .scalarType => typeRule "scalar" (maybe .directives) (the .directives)
  | .objectType =>
      typeRule "type"
        (maybe .interfaces >> maybe .directives >> maybe .fields)
        (maybe .interfaces >> directivesAnd .fields <|> the .interfaces)
  | .interfaceType =>
      typeRule "interface"
        (maybe .interfaces >> maybe .directives >> maybe .fields)
        (maybe .interfaces >> directivesAnd .fields)
  | .unionType =>
      typeRule "union" (maybe .directives >> maybe .unionMembers)
        (directivesAnd .unionMembers)
  | .enumType =>
      typeRule "enum" (maybe .directives >> maybe .enumValues)
        (directivesAnd .enumValues)
  | .inputType =>
      typeRule "input" (maybe .directives >> maybe .inputFields)
        (directivesAnd .inputFields)
  | .extension => word "extend"
  | .interfaces => word "implements" >> separated "&" .name
  | .fields => enclosed "\x7b" .field "\x7d"
  | .field =>
      maybe .string >> the .name >> maybe .parameters >> word ":"
        >> the .typeRef >> maybe .directives
  | .unionMembers => word "=" >> separated "|" .name
  | .enumValues => enclosed "\x7b" .enumValueDefinition "\x7d"
  | .enumValueDefinition =>
      maybe .string >> the .enumValue >> maybe .directives
  | .inputFields => enclosed "\x7b" .inputValue "\x7d"
  | .directiveDefinition =>
      maybe .string >> word "directive" >> word "@" >> the .name
        >> maybe .parameters >> the .repeatable >> word "on"
        >> the .directiveLocations
  | .repeatable => .opt (word "repeatable")
  | .directiveLocations => separated "|" .directiveLocation
  | .directiveLocation =>
      word "QUERY" <|> word "MUTATION" <|> word "SUBSCRIPTION"
        <|> word "FIELD_DEFINITION" <|> word "FIELD"
        <|> word "FRAGMENT_DEFINITION" <|> word "FRAGMENT_SPREAD"
        <|> word "INLINE_FRAGMENT" <|> word "VARIABLE_DEFINITION"
        <|> word "SCHEMA" <|> word "SCALAR" <|> word "OBJECT"
        <|> word "ARGUMENT_DEFINITION" <|> word "INTERFACE" <|> word "UNION"
        <|> word "ENUM_VALUE" <|> word "ENUM" <|> word "INPUT_OBJECT"
        <|> word "INPUT_FIELD_DEFINITION"
  | .parameters => enclosed "(" .inputValue ")"
  | .inputValue =>
      maybe .string >> the .name >> word ":" >> the .typeRef
        >> maybe .defaultValue >> maybe .directives
  | .defaultValue => word "=" >> the .value
  | .typeRef =>
      (the .name <|> word "[" >> the .typeRef >> word "]")
        >> .opt (word "!")
  | .value =>
      the .number <|> the .string <|> the .boolean <|> the .null
        <|> the .enumValue <|> the .list <|> the .object
  | .number => (decimal <|> integer) >> .unless (.one isNameStart)
  | .string =>
      word "\"\"\"" >> the .blockContent >> word "\"\"\""
        <|> word "\"" >> the .lineContent >> word "\""
  | .blockContent => .many blockCharacter
  | .lineContent => .many lineCharacter
  | .boolean => word "true" <|> word "false"
  | .null => word "null"
  | .enumValue => .unless (the .boolean <|> the .null) >> the .name
  | .list => word "[" >> .many (the .value) >> word "]"
  | .object => word "\x7b" >> .many (the .objectField) >> word "\x7d"
  | .objectField => the .name >> word ":" >> the .value
  | .directives => many1 (the .directive)
  | .directive => word "@" >> the .name >> maybe .arguments
  | .arguments => enclosed "(" .argument ")"
  | .argument => the .name >> word ":" >> the .value
  | .name => .one isNameStart >> .many (.one isNameRest)
  | .endOfText => .finish

/-- Which rules hold no blanks. -/
def Rule.spacing : Rule → Option Spacing
  | .typeRef => some .solid
  | .number => some .solid
  | .blockContent => some .solid
  | .lineContent => some .solid
  | .name => some .solid
  | .string => some .joined
  | .enumValue => some .joined
  | _ => none

/-- The grammar. -/
def grammar : Grammar Rule where
  production r := ⟨r.body, r.spacing⟩
  blanks := blankLength

/-- How deep the rules can call each other on one character of the text. -/
def callsPerCharacter : Nat := 16

/-- The tree of a document, or the furthest place at which something else was
expected. -/
def parseTree (text : List Char) : Except Nat (ParseTree Rule) :=
  grammar.parse callsPerCharacter .document text

end SchemaTables.Sdl
