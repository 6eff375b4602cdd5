/-
  SchemaTables.Settings
  ─────────────────────
  **THE SETTINGS OF A FOLDER.**

  A file `gqlstore.toml` may say which files are schema files and how they are
  read:

      [schema]
      pattern = "*.gql"

      [translation]
      description-fallback = false

  Everything has a default, and nothing else may be set.  Each table is made
  in one way: by a header, by dotted keys, or by one value.
-/
import SchemaTables.Loading
import SchemaTables.Text.Blank
import SchemaTables.Toml.Statement

namespace SchemaTables

open Files Elaboration

/-! ## §1. Settings. -/

/-- How a folder is read. -/
structure Settings where
  pattern : String
  options : Options
  deriving DecidableEq, Repr

namespace Settings

/-- The settings where there is no file. -/
def standard : Settings := ⟨defaultPattern, {}⟩

/-- The name of the file. -/
def fileName : String := "gqlstore.toml"

end Settings

/-- Why settings cannot be used. -/
inductive SettingsError where
  | unreadable (path : String) (error : FileError)
  | malformed (path : String)
  | emptyPattern
  deriving DecidableEq, Repr

/-- The text of an error. -/
def SettingsError.message : SettingsError → String
  | .unreadable path error =>
      "Failed to read file '" ++ path ++ "': " ++ error.message
  | .malformed path =>
      "Failed to parse TOML file '" ++ path ++ "': not a settings file"
  | .emptyPattern => "Schema file pattern cannot be empty"

/-! ## §2. What a file says. -/

/-- The pattern and the fallback that a file sets. -/
structure Given where
  pattern : Option String
  fallback : Option Bool

/-- A statement with the table it belongs to, as the key from the root. -/
inductive Entry where
  /-- A table is opened. -/
  | opened (key : List String)
  /-- A key is assigned; `inHeader` tells whether below a header. -/
  | assigned (key : List String) (inHeader : Bool) (value : Toml.Value)

/-- Give every assignment the key of its table; there are no lists of
tables. -/
def entriesUnder (table : List String) :
    List Toml.Statement → Option (List Entry)
  | [] => some []
  | .header key :: rest =>
      (entriesUnder key rest).map (.opened key :: ·)
  | .listHeader _ :: _ => none
  | .assign key value :: rest =>
      (entriesUnder table rest).map
        (.assigned (table ++ key) (!table.isEmpty) value :: ·)

/-- The ways in which the table `name` is made, without repetition of the
dotted keys. -/
def makings (name : String) (entries : List Entry) : Nat :=
  let headers := entries.countP fun
    | .opened key => key = [name]
    | _ => false
  let values := entries.countP fun
    | .assigned key _ _ => key = [name]
    | _ => false
  let dotted := entries.any fun
    | .assigned key inHeader _ => key.head? = some name && key.length ≠ 1
        && !inHeader
    | _ => false
  headers + values + if dotted then 1 else 0

/-- A value that a table holds under `key`, where the table is written as one
value: either as a table with that key at most, or as a list whose first item
is the value. -/
def Toml.Value.member? (key : String) : Toml.Value → Option (Option Toml.Value)
  | .table [] => some none
  | .table [(k, v)] => if k = [key] then some (some v) else none
  | .array (v :: _) => some (some v)
  | _ => none

/-- The values given to `key` of the table `name`; `none` where the table is
given something else. -/
def valuesOf (name key : String) (entries : List Entry) :
    Option (List Toml.Value) :=
  (entries.filterMapM fun
    | .assigned k _ v =>
        if k = [name, key] then some (some v)
        else if k = [name] then v.member? key
        else some none
    | .opened _ => some none)

/-- Is this the key of a table or a value that there is? -/
def isKnown : List String → Bool
  | ["schema"] => true
  | ["schema", "pattern"] => true
  | ["translation"] => true
  | ["translation", "description-fallback"] => true
  | _ => false

/-- Does an entry concern nothing unknown?  A header opens a table. -/
def Entry.isKnown : Entry → Bool
  | .opened key => key.length = 1 && SchemaTables.isKnown key
  | .assigned key _ _ => SchemaTables.isKnown key

/-- At most one value, of the right type. -/
def single? {α : Type} (read : Toml.Value → Option α) :
    List Toml.Value → Option (Option α)
  | [] => some none
  | [v] => (read v).map some
  | _ => none

/-- The text of a string. -/
def Toml.Value.string? : Toml.Value → Option String
  | .string s => some s
  | _ => none

/-- The value of a boolean. -/
def Toml.Value.boolean? : Toml.Value → Option Bool
  | .boolean b => some b
  | _ => none

/-- What a settings file says. -/
def readSettings? (text : String) : Option Given := do
  let entries ← entriesUnder [] (← Toml.parse? text)
  if entries.all Entry.isKnown && makings "schema" entries ≤ 1
      && makings "translation" entries ≤ 1 then
    return {
      pattern :=
        ← single? Toml.Value.string? (← valuesOf "schema" "pattern" entries)
      fallback :=
        ← single? Toml.Value.boolean?
          (← valuesOf "translation" "description-fallback" entries) }
  else none

/-! ## §3. Loading. -/

/-- The settings that a file gives. -/
def settingsOf (g : Given) : Except SettingsError Settings :=
  match g.pattern with
  | some pattern =>
      if Text.isAllBlank pattern then .error .emptyPattern
      else .ok ⟨pattern, ⟨g.fallback.getD true⟩⟩
  | none => .ok ⟨defaultPattern, ⟨g.fallback.getD true⟩⟩

/-- The settings of a folder. -/
def loadSettings (root : Node) (cwd : List String) (folder : String) :
    Except SettingsError Settings :=
  let path := joinPath folder Settings.fileName
  if existsAt root cwd path then
    match readText root cwd path with
    | .error e => .error (.unreadable path e)
    | .ok text =>
        match readSettings? text with
        | none => .error (.malformed path)
        | some given => settingsOf given
  else .ok .standard

end SchemaTables
