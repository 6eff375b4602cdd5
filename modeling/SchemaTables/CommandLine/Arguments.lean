/-
  SchemaTables.CommandLine.Arguments
  ──────────────────────────────────
  **WHAT THE ARGUMENTS ASK FOR.**

      gqlstore (model | storage | operations) [FOLDER] [-o FILE]
      gqlstore (--version | -V | --help | -h)

  Options and the folder may stand in any order after the command.  After
  two dashes every argument is a folder.  The file of `-o` may be the next
  argument, or follow in the same one, with or without an equals sign.  An
  empty folder or file is an error, and so is giving either twice.
-/

namespace SchemaTables.CommandLine

/-! ## §1. Requests. -/

/-- What is printed about a schema. -/
inductive Command where
  | model
  | storage
  | operations
  deriving DecidableEq, Repr

/-- The command of this name. -/
def Command.ofName? : String → Option Command
  | "model" => some .model
  | "storage" => some .storage
  | "operations" => some .operations
  | _ => none

/-- The folder and the output file, as far as they are given. -/
structure Targets where
  folder : Option String := none
  output : Option String := none
  deriving DecidableEq, Repr

/-- What the arguments ask for. -/
inductive Request where
  | run (command : Command) (targets : Targets)
  | version
  | help
  deriving DecidableEq, Repr

/-- The outcome of reading the arguments of a command. -/
inductive Reading where
  | targets (t : Targets)
  | help
  | wrong
  deriving DecidableEq, Repr

/-! ## §2. Options. -/

/-- The rest of `text` after `word`, if it begins with it. -/
def after? (word : String) (text : String) : Option String :=
  if word.toList.isPrefixOf text.toList then
    some (String.ofList (text.toList.drop word.length))
  else none

/-- Does an argument look like an option? -/
def isOption (arg : String) : Bool :=
  match arg.toList with
  | '-' :: _ :: _ => true
  | _ => false

/-- Set the folder. -/
def Targets.withFolder (t : Targets) (folder : String) : Option Targets :=
  if folder.isEmpty || t.folder.isSome then none
  else some { t with folder := some folder }

/-- Set the output file. -/
def Targets.withOutput (t : Targets) (file : String) : Option Targets :=
  if file.isEmpty || t.output.isSome then none
  else some { t with output := some file }

/-- The output file that an option names in the same argument. -/
def attachedOutput? (arg : String) : Option String :=
  match after? "--output=" arg with
  | some file => some file
  | none =>
      match after? "-o=" arg with
      | some file => some file
      | none => after? "-o" arg

/-! ## §3. Arguments. -/

/-- Read arguments that can only be folders. -/
def readFolders (t : Targets) : List String → Reading
  | [] => .targets t
  | arg :: rest =>
      match t.withFolder arg with
      | some t => readFolders t rest
      | none => .wrong

/-- Read the arguments of a command. -/
def readTargets (t : Targets) : List String → Reading
  | [] => .targets t
  | "--" :: rest => readFolders t rest
  | "--output" :: rest => readFile t rest
  | "-o" :: rest => readFile t rest
  | arg :: rest =>
      if arg = "--help" || (after? "-h" arg).isSome then .help
      else
        match attachedOutput? arg with
        | some file =>
            match t.withOutput file with
            | some t => readTargets t rest
            | none => .wrong
        | none =>
            if isOption arg then .wrong
            else
              match t.withFolder arg with
              | some t => readTargets t rest
              | none => .wrong
where
  /-- Read the file of an option from the next argument. -/
  readFile (t : Targets) : List String → Reading
    | [] => .wrong
    | file :: rest =>
        if isOption file then .wrong
        else
          match t.withOutput file with
          | some t => readTargets t rest
          | none => .wrong

/-- What the arguments ask for; `none` if they cannot be understood. -/
def Request.ofArguments? : List String → Option Request
  | [] => none
  | arg :: rest =>
      if arg = "--version" || (after? "-V" arg).isSome then some .version
      else if arg = "--help" || (after? "-h" arg).isSome then some .help
      else
        match Command.ofName? arg with
        | none => none
        | some command =>
            match readTargets {} rest with
            | .targets t => some (.run command t)
            | .help => some .help
            | .wrong => none

end SchemaTables.CommandLine
