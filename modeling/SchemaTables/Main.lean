/-
  SchemaTables.Main
  ─────────────────
  **THE PROGRAM.**

  `run` works on a tree of files; the program gives it one that holds what
  the arguments lead to on the disk: the schema folder with all that lies
  below it, and the files and folders that the given paths go through.  What
  `run` answers is printed, its log in lines without the time, and the output
  file is written to the disk.
-/
import SchemaTables.CommandLine.Run

namespace SchemaTables

open Files CommandLine

/-- The entry of the disk at a place. -/
def diskEntry (place : List String) : IO.FS.DirEntry :=
  ⟨"/", pathOfPlace place⟩

/-- A file or a folder of the disk, with all that lies below it.  Hidden
folders are not looked into: no schema file is taken from them. -/
partial def readNode (entry : IO.FS.DirEntry) : IO Node := do
  if ← entry.path.isDir then
    let below ← entry.path.readDir
    let entries ← below.toList.mapM fun e => do
      if isHidden e.fileName && (← e.path.isDir) then
        return (e.fileName, Node.folder [])
      else return (e.fileName, ← readNode e)
    return .folder entries
  else return .file (← IO.FS.readBinFile entry.path)

/-- The places that a path goes through on the disk, as far as there is
something, each with an empty file or folder. -/
def readSteps (place : List String) :
    List String → IO (List (List String × Node))
  | [] => return []
  | name :: rest => do
      let next :=
        if staysInPlace name then place
        else if name = ".." then place.dropLast
        else place ++ [name]
      let path := (diskEntry next).path
      if ← path.isDir then
        return (next, .folder []) :: (← readSteps next rest)
      else if ← path.pathExists then return [(next, .file .empty)]
      else return []

/-- The tree that the arguments lead to, seen from the folder `cwd`. -/
def readTree (cwd : List String) (targets : Targets) : IO Node := do
  let steps (path : String) :=
    readSteps (if isAbsolute path then [] else cwd) (pathNames path)
  let folder := targets.folder.getD "."
  let toFolder ← steps folder
  let toOutput ← steps (targets.output.getD ".")
  let here := (cwd, Node.folder [])
  let marks := here :: (toFolder ++ toOutput)
  let tree ←
    match resolve (marks.foldl grow (.folder [])) cwd folder with
    | .ok place =>
        pure (grow (.folder []) (place, ← readNode (diskEntry place)))
    | .error _ => pure (.folder [])
  return marks.foldl grow tree
where
  /-- Add what lies at a place. -/
  grow (tree : Node) (mark : List String × Node) : Node :=
    Node.plant mark.2 mark.1 tree

end SchemaTables

open SchemaTables SchemaTables.Files SchemaTables.CommandLine in
/-- Run the program in the current folder. -/
def main (args : List String) : IO UInt32 := do
  let cwd := plainNames (← IO.currentDir).toString
  let targets :=
    match Request.ofArguments? args with
    | some (.run _ targets) => some targets
    | _ => none
  let tree ←
    match targets with
    | some targets => readTree cwd targets
    | none => pure (.folder [])
  let outcome := run tree cwd args
  for warning in outcome.log do
    IO.eprintln ("WARN " ++ warning.message)
  IO.print outcome.stdout
  IO.eprint outcome.stderr
  if outcome.status = .success then
    if let some file := targets.bind Targets.output then
      if let .ok text := readText outcome.tree cwd file then
        IO.FS.writeFile file text
  return UInt32.ofNat outcome.status.code
