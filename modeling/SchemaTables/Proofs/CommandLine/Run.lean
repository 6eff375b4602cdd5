/-
  SchemaTables.Proofs.CommandLine.Run
  ───────────────────────────────────
  **A RUN WRITES ITS OUTPUT OR NOTHING.**

  A run that fails, for whatever reason, prints nothing on the standard output
  and leaves the tree as it was.  One that succeeds has loaded a schema and
  describes it: on the standard output, and then the tree stays as it was, or
  in the output file, and then nothing else in the tree has changed and the
  file holds what would have been printed without it (`run_atomic`).  Either
  way it logs the warnings that reading the schema gives.

  The output file may be any file, also one that was read: the text is
  complete before anything is written.
-/
import SchemaTables.CommandLine.Run
import SchemaTables.Proofs.CommandLine.Arguments
import SchemaTables.Proofs.Files.Writing
import SchemaTables.Proofs.Steps

namespace SchemaTables.CommandLine

open Files Elaboration

variable {tree : Node} {cwd : List String} {command : Command}
  {targets : Targets} {args rest : List String} {name text : String}
  {folder : Option String}

/-! ## §1. Texts. -/

/-- The path of the folder that a command reads. -/
def schemaPath (cwd : List String) : Option String → String
  | some folder => absolutePath cwd folder
  | none => pathOfPlace cwd

/-- The warnings that reading the schema of the folder gives. -/
def folderLog (tree : Node) (cwd : List String) (folder : Option String) :
    List Warning :=
  (loadFolder tree cwd (schemaPath cwd folder)).log

/-- The text is what the command prints about the schema of the folder. -/
def Prints (tree : Node) (cwd : List String) (command : Command)
    (folder : Option String) (text : String) : Prop :=
  ∃ schema json,
    (loadFolder tree cwd (schemaPath cwd folder)).result = .ok schema ∧
      describe command schema = .ok json ∧ text = json.pretty ++ "\n"

theorem log_commandOutput :
    (commandOutput tree cwd command folder).log
      = folderLog tree cwd folder := by
  unfold commandOutput folderLog schemaPath
  cases folder <;> rfl

theorem commandOutput_eq_ok :
    (commandOutput tree cwd command folder).result = .ok text ↔
      Prints tree cwd command folder text := by
  have hpath : (commandOutput tree cwd command folder).result =
      ((loadFolder tree cwd (schemaPath cwd folder)).result >>= fun schema =>
        describe command schema >>= fun json =>
          .ok (json.pretty ++ "\n")) := by
    unfold commandOutput
    cases folder <;> rfl
  rw [hpath, bind_eq_ok]
  constructor
  · intro h
    obtain ⟨schema, hschema, h⟩ := h
    obtain ⟨json, hjson, h⟩ := bind_eq_ok.mp h
    exact ⟨schema, json, hschema, hjson, (Except.ok.inj h).symm⟩
  · intro h
    obtain ⟨schema, json, hschema, hjson, rfl⟩ := h
    exact ⟨schema, hschema, bind_eq_ok.mpr ⟨json, hjson, rfl⟩⟩

/-! ## §2. The ends of a run. -/

/-- How the run of a command ends: it fails and does nothing, it prints its
text, or it writes its text to the output file. -/
inductive RunEnds (tree : Node) (cwd : List String) (command : Command)
    (args : List String) : Outcome → Prop where
  | failed {status : Status} {log : List Warning} {stderr : String}
      (h : status ≠ .success) :
      RunEnds tree cwd command args ⟨status, "", log, stderr, tree⟩
  | printed {targets : Targets} {text : String}
      (request : Request.ofArguments? args = some (.run command targets))
      (stdout : targets.output = none)
      (prints : Prints tree cwd command targets.folder text) :
      RunEnds tree cwd command args
        ⟨.success, text, folderLog tree cwd targets.folder, "", tree⟩
  | wrote {targets : Targets} {text file : String} {written : Node}
      (request : Request.ofArguments? args = some (.run command targets))
      (output : targets.output = some file)
      (prints : Prints tree cwd command targets.folder text)
      (write : writeText tree cwd file text = .ok written) :
      RunEnds tree cwd command args
        ⟨.success, "", folderLog tree cwd targets.folder, "", written⟩

/-- The text is made in full before it goes anywhere. -/
theorem run_of_request
    (h : Request.ofArguments? args = some (.run command targets)) :
    run tree cwd args =
      let log := folderLog tree cwd targets.folder
      match (commandOutput tree cwd command targets.folder).result with
      | .error f => ⟨.failure, "", log, f.text, tree⟩
      | .ok text =>
          match deliver tree cwd text targets.output with
          | .ok (stdout, written) => ⟨.success, stdout, log, "", written⟩
          | .error f => ⟨.failure, "", log, f.text, tree⟩ := by
  unfold run
  rw [h]
  dsimp only
  rw [log_commandOutput]
  cases (commandOutput tree cwd command targets.folder).result <;> rfl

/-- Without an output file the text is printed. -/
theorem run_toStdout
    (h : Request.ofArguments? args = some (.run command targets))
    (houtput : targets.output = none)
    (hprints : Prints tree cwd command targets.folder text) :
    run tree cwd args
      = ⟨.success, text, folderLog tree cwd targets.folder, "", tree⟩ := by
  rw [run_of_request h, commandOutput_eq_ok.mpr hprints, houtput]
  rfl

theorem runEnds_of_request
    (h : Request.ofArguments? args = some (.run command targets)) :
    RunEnds tree cwd command args (run tree cwd args) := by
  cases htext : (commandOutput tree cwd command targets.folder).result with
  | error f =>
      rw [run_of_request h, htext]
      exact .failed (by decide)
  | ok text =>
      have hprints := commandOutput_eq_ok.mp htext
      cases houtput : targets.output with
      | none =>
          rw [run_toStdout h houtput hprints]
          exact .printed h houtput hprints
      | some file =>
          rw [run_of_request h, htext, houtput]
          dsimp only
          unfold deliver
          dsimp only
          cases hwrite : writeText tree cwd file text with
          | ok written => exact .wrote h houtput hprints hwrite
          | error e => exact .failed (by decide)

/-- Unless help is asked for, the name of a command makes a run of it. -/
theorem runEnds (tree : Node) (cwd : List String)
    (hcommand : Command.ofName? name = some command)
    (hhelp : Request.ofArguments? (name :: rest) ≠ some .help) :
    RunEnds tree cwd command (name :: rest) (run tree cwd (name :: rest)) := by
  cases hread : readTargets {} rest with
  | targets t =>
      apply runEnds_of_request
      rw [ofArguments?_command hcommand, hread]
  | help =>
      rw [ofArguments?_command hcommand, hread] at hhelp
      exact absurd rfl hhelp
  | wrong =>
      have hnone : Request.ofArguments? (name :: rest) = none := by
        rw [ofArguments?_command hcommand, hread]
      unfold run
      rw [hnone]
      exact .failed (by decide)

/-! ## §3. All or nothing. -/

/-- Nothing is printed on the standard output, and nothing is written. -/
def Outcome.Silent (outcome : Outcome) (tree : Node) : Prop :=
  outcome.stdout = "" ∧ outcome.tree = tree

/-- The text is in the file that the path leads to, and nowhere else has
anything changed. -/
def Outcome.Writes (outcome : Outcome) (tree : Node) (cwd : List String)
    (file text : String) : Prop :=
  outcome.stdout = "" ∧ readText outcome.tree cwd file = .ok text ∧
    ∃ place, resolve outcome.tree cwd file = .ok place ∧
      outcome.tree.itemAt place = some (.file text.toUTF8) ∧
      ∀ q, q ≠ place → outcome.tree.itemAt q = tree.itemAt q

/-- A run that fails has printed and written nothing.  One that succeeds has
printed the schema, or has put into the output file, and only there, what it
prints without that file.  It has logged the same in both cases. -/
theorem run_atomic (tree : Node) (cwd : List String)
    (hcommand : Command.ofName? name = some command)
    (hhelp : Request.ofArguments? (name :: rest) ≠ some .help) :
    ((run tree cwd (name :: rest)).status ≠ .success →
        (run tree cwd (name :: rest)).Silent tree) ∧
      ((run tree cwd (name :: rest)).status = .success →
        ∃ targets text,
          Request.ofArguments? (name :: rest)
            = some (.run command targets) ∧
          Prints tree cwd command targets.folder text ∧
          run tree cwd (name :: withoutOutput rest)
            = ⟨.success, text, folderLog tree cwd targets.folder, "", tree⟩ ∧
          (targets.output = none → run tree cwd (name :: rest)
            = ⟨.success, text, folderLog tree cwd targets.folder, "", tree⟩) ∧
          ∀ file, targets.output = some file →
            (run tree cwd (name :: rest)).Writes tree cwd file text ∧
            (run tree cwd (name :: rest)).log
              = folderLog tree cwd targets.folder) := by
  -- the same targets but for the output give the same text
  have hstdout : ∀ {targets text},
      Request.ofArguments? (name :: rest) = some (.run command targets) →
      Prints tree cwd command targets.folder text →
      run tree cwd (name :: withoutOutput rest)
        = ⟨.success, text, folderLog tree cwd targets.folder, "", tree⟩ := by
    intro targets text hrequest hprints
    have hrequest' := ofArguments?_withoutOutput hcommand hrequest
    have hrun := run_toStdout hrequest' rfl hprints
    exact hrun
  have hends := runEnds tree cwd hcommand hhelp
  generalize run tree cwd (name :: rest) = outcome at hends ⊢
  cases hends with
  | failed h => exact ⟨fun _ => ⟨rfl, rfl⟩, fun hsuccess => absurd hsuccess h⟩
  | @printed targets text hrequest houtput hprints =>
      refine ⟨fun h => absurd rfl h, fun _ => ⟨targets, text, hrequest,
        hprints, hstdout hrequest hprints, ?_, ?_⟩⟩
      · intro _
        rfl
      · intro file hfile
        rw [houtput] at hfile
        cases hfile
  | @wrote targets text file written hrequest houtput hprints hwrite =>
      refine ⟨fun h => absurd rfl h, fun _ => ⟨targets, text, hrequest,
        hprints, hstdout hrequest hprints, ?_, ?_⟩⟩
      · intro hnone
        rw [houtput] at hnone
        cases hnone
      · intro file' hfile
        rw [houtput] at hfile
        cases hfile
        exact ⟨⟨rfl, readText_of_writeText hwrite, writeText_spec hwrite⟩, rfl⟩

/-- A folder with one schema file, which warns of a mark that is ignored. -/
def bookFolder : Node :=
  .folder [("book.graphql",
    .file "type Book { id: ID title: String @hasOne }".toUTF8)]

/-- The same folder with settings that cannot be used. -/
def misconfiguredFolder : Node :=
  .folder [("book.graphql",
    .file "type Book { id: ID title: String @hasOne }".toUTF8),
    ("gqlstore.toml", .file "[schema]\npattern = 1".toUTF8)]

/-- A folder with a schema file that is cut off. -/
def brokenFolder : Node :=
  .folder [("book.graphql", .file "type Book \x7b id: ID".toUTF8)]

/-- The schema file itself may be the output file, and then holds the model of
the schema that it held; where the output file cannot be made, where the
settings cannot be used and where the schema cannot be read, it is left
alone. -/
theorem run_atomic_bookFolder :
    (∃ schema model log,
      (loadFolder bookFolder [] "/").result = .ok schema ∧
        schema.toList.map Entity.name = ["Book"] ∧
        Storage.build schema = .ok model ∧
        log.map Warning.message =
          ["Book.title: ignoring 'hasOne' association on primitive type "
            ++ "String"] ∧
        run bookFolder [] ["storage"]
          = ⟨.success, model.toJson.pretty ++ "\n", log, "", bookFolder⟩ ∧
        (run bookFolder [] ["storage", "-o", "book.graphql"]).Writes
          bookFolder [] "book.graphql" (model.toJson.pretty ++ "\n")) ∧
      (run bookFolder [] ["storage", "-o", "out/book.json"]).Silent
        bookFolder ∧
      (run misconfiguredFolder [] ["storage", "-o", "book.graphql"]).Silent
        misconfiguredFolder ∧
      (run brokenFolder [] ["storage", "-o", "book.graphql"]).Silent
        brokenFolder := by
  have hcommand : Command.ofName? "storage" = some .storage := rfl
  have hrequest : Request.ofArguments? ["storage", "-o", "book.graphql"]
      = some (.run .storage ⟨none, some "book.graphql"⟩) := by
    decide +kernel
  have hhelp : Request.ofArguments? ["storage", "-o", "book.graphql"]
      ≠ some .help := by
    rw [hrequest]
    simp
  refine ⟨?_, ?_, ?_, ?_⟩
  · obtain ⟨-, hwrites⟩ := run_atomic bookFolder [] hcommand hhelp
    obtain ⟨targets, text, htargets, ⟨schema, json, hschema, hjson, rfl⟩,
      hstdout, -, hfile⟩ := hwrites (by decide +kernel)
    rw [hrequest] at htargets
    cases htargets
    have hnames : (loadFolder bookFolder [] "/").result.toOption.map
        (fun s => s.toList.map Entity.name) = some ["Book"] := by
      decide +kernel
    have hlog : (folderLog bookFolder [] none).map Warning.message =
        ["Book.title: ignoring 'hasOne' association on primitive type "
          ++ "String"] := by
      decide +kernel
    change (loadFolder bookFolder [] "/").result = .ok schema at hschema
    rw [hschema, Except.toOption, Option.map_some, Option.some.injEq]
      at hnames
    unfold describe at hjson
    dsimp only at hjson
    split at hjson
    · next model hmodel =>
        cases hjson
        exact ⟨schema, model, _, hschema, hnames, hmodel, hlog, hstdout,
          (hfile _ rfl).1⟩
    · cases hjson
  · exact (run_atomic bookFolder [] hcommand (by decide +kernel)).1
      (by decide +kernel)
  · exact (run_atomic misconfiguredFolder [] hcommand hhelp).1
      (by decide +kernel)
  · exact (run_atomic brokenFolder [] hcommand hhelp).1 (by decide +kernel)

end SchemaTables.CommandLine
