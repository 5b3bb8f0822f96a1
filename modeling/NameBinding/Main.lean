/-
This file is the command line. It looks at the files that a run can need, carries out the run, and
puts into effect what the run left behind.
-/

import NameBinding.Command.Run

namespace NameBinding

namespace CommandLine

/-- The number of the system's failure to read a directory as a file. -/
def directoryCode : UInt32 := 21

/-- The path of a place. -/
def pathOf (place : Place) : String :=
  "/" ++ String.intercalate "/" place

/-- Adds what stands at a place to the files that a run sees. -/
def lookAt (files : Files) (place : Place) : IO Files := do
  try
    let text ← IO.FS.readFile (pathOf place)
    return files.put place (.file text)
  catch
    | .inappropriateType _ code _ =>
      return if code = directoryCode then files.put place .directory else files
    | _ => return files

/-- Adds what stands on the way of a path, as far as the way goes. -/
def lookAlong (files : Files) (name : String) : IO Files :=
  match Path.ofText name with
  | .error _ => return files
  | .ok path =>
    (List.range path.steps.length).foldlM (fun files count =>
      match files.follow path.absolute (path.steps.take (count + 1)) with
      | .error _ => return files
      | .ok place => lookAt files place) files

/-- The names of the files that a command line can need. -/
def neededNames (shared : Shared) (action : Action) : List String :=
  let tree := match action with
    | .check file => [file]
    | .unparse file _ => [file]
    | .bindings file _ => [file]
    | .init _ => []
  shared.config.getD Settings.defaultName :: tree

/-- The working directory and the directories around it. -/
def surroundings : IO Files := do
  let here := ((toString (← IO.currentDir)).splitOn "/").filter (· ≠ "")
  let directories := (List.range here.length).map fun count => here.take (count + 1)
  return { here, entries := directories.map fun place => (place, .directory) }

/-- Writes the files that a run added or changed. -/
def saveChanges (before after : Files) : IO Unit :=
  after.entries.forM fun (place, entry) => do
    match entry with
    | .file text =>
      if before.entryAt place ≠ some entry then
        IO.FS.writeFile (pathOf place) text
    | .directory => return ()

end CommandLine

end NameBinding

open NameBinding NameBinding.CommandLine in
/-- Runs the command line with its arguments. -/
def main (arguments : List String) : IO UInt32 := do
  let names := match parse arguments with
    | .ok (shared, action) => neededNames shared action
    | .error _ => []
  let files ← names.foldlM lookAlong (← surroundings)
  let stdout ← IO.getStdout
  let theme : Theme := if ← stdout.isTty then .colored else .plain
  let outcome := run { files, quiet := ← IO.getEnv "BACH_QUIET", theme } arguments
  saveChanges files outcome.files
  outcome.log.forM fun entry => entry.lines.forM IO.eprintln
  IO.print outcome.stdout
  IO.eprint outcome.stderr
  return outcome.exit.toUInt32
