import Schemata.CommandLine.Execute
import Schemata.CommandLine.Timestamp
import Std.Time.Zoned

/-! # The program

The program runs on a picture of the files that its two paths lead through, and then carries out what
the run changed in it.
-/

namespace Schemata.CommandLine

def programName : Text := "schemata"

def helpText : Text :=
  Text.join "\n"
    [text "usage: " ++ programName ++ text " [-h] [--schema FILE] [--format FORMAT] [--out FILE] [-v]",
     [],
     "Reads the statements of a schema file and reports on them.",
     [],
     "  --schema FILE    the schema file (default: " ++ defaultSchemaPath ++ text ")",
     text "  --format FORMAT  "
       ++ Text.join ", " (OutputFormat.all.map OutputFormat.name) ++ text " (default: json)",
     "  --out FILE       where to save the report (default: standard output)",
     "  --verbose, -v    show the log of the run"]

/-- What is found at a path: a file with its content, or a directory. -/
def probe (path : Path) : IO (Option Node) := do
  try
    let content ← IO.FS.readBinFile (Text.toString path.toText)
    return some (.file content.toList)
  catch
    | .inappropriateType none 21 _ => return some .directory
    | _ => return none

/-- Adds to a picture what a path leads through, as far as it is there. -/
def picture (tree : FileTree) (path : Path) : IO FileTree := do
  let mut tree := tree
  for count in [1:path.names.length + 1] do
    let part : Path := { path with names := path.names.take count }
    match tree.locate part, ← probe part with
    | .ok location, some node => tree := tree.put location node
    | _, _ => return tree
  return tree

/-- The path from the working directory, or from the root, to a place. -/
def pathTo (location : Location) : Path :=
  match location.origin with
  | .root => ⟨true, location.names.reverse⟩
  | .above levels => ⟨false, List.replicate levels (text "..") ++ location.names.reverse⟩

/-- Carries out the changes from one picture to a later one, oldest first. -/
def carryOut (old new : FileTree) : IO Unit := do
  for (location, node) in new.entries.reverse do
    if old.find? location ≠ some node then
      let path := Text.toString (pathTo location).toText
      match node with
      | .directory => IO.FS.createDirAll path
      | .file content => IO.FS.writeBinFile path ⟨content.toArray⟩

def currentTime : IO Timestamp := do
  let now ← Std.Time.PlainDateTime.now
  return {
    year := now.date.year.toNat
    month := now.date.month.val.toNat
    day := now.date.day.val.toNat
    hour := now.time.hour.val.toNat
    minute := now.time.minute.val.toNat
    second := now.time.second.val.toNat
    microsecond := now.time.nanosecond.val.toNat / 1000 }

def Breakdown.message : Breakdown → Text
  | .invalidPath => Path.invalidMessage
  | .fault reason => reason.message
  | .report error => error.message
  | .write error => error.message

def runProgram (settings : Settings) : IO UInt32 := do
  let schema ← picture .empty (resolveSchemaPath (some defaultSchemaPath) settings.schema)
  let files ← picture schema (.ofText (settings.out.getD []))
  match execute settings (← currentTime).toText files with
  | .error breakdown =>
    (← IO.getStderr).putStrLn (Text.toString breakdown.message)
    return 1
  | .ok (output, changed) =>
    (← IO.getStderr).putStr (Text.toString output.err)
    carryOut files changed
    (← IO.getStdout).putStr (Text.toString output.out)
    return output.exitCode.toUInt32

end Schemata.CommandLine

open Schemata Schemata.CommandLine in
/-- The entry point of the program. -/
def main (arguments : List String) : IO UInt32 := do
  match readArguments (arguments.map text) with
  | .error e =>
    (← IO.getStderr).putStrLn (Text.toString (e.report programName))
    return 2
  | .ok .help =>
    (← IO.getStdout).putStrLn (Text.toString helpText)
    return 0
  | .ok (.run settings) => runProgram settings
