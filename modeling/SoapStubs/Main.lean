import SoapStubs.Archive.Zip
import SoapStubs.Cli.Run
import SoapStubs.Json.Writer
import Std.Time

/-!
# The program

Reads the files that a command line names, runs it, and writes what has changed.

* `gatherFiles` reads files and `writeFiles` writes them;
* `main` is the program.
-/

namespace SoapStubs.Cli

/-- The files with one more that is there. -/
def readInto (t : FileTree) (name : String) : IO FileTree := do
  try
    let bytes ← IO.FS.readBinFile name
    return ((t.plant (.ofText name) (.file (.ofBytes bytes.toList))).toOption).getD t
  catch _ => return t

/-- The files that a command line may read: those that its arguments name, the types beside
them and the file of variables. -/
def gatherFiles (arguments : List String) : IO FileTree :=
  let named := (arguments.flatMap Command.fileNames).filter (· != "")
  let beside := named.map fun name => (typesBeside (.ofText name)).text
  let settings := (({} : Settings.Manner).files).map Path.text
  (settings ++ named ++ beside).foldlM readInto {}

/-- The variables of the environment that set something. -/
def gatherEnvironment : IO (List (String × String)) := do
  let names := Settings.fieldNames.map fun field => Text.upper (Settings.variableStart ++ field)
  let found ← names.mapM fun name => do
    return (← IO.getEnv name).map fun value => (name, value)
  return found.filterMap id

/-- Writes the files that are not the same as before. -/
def writeFiles (before after : FileTree) : IO Unit := do
  let here := Path.ofText ""
  let old := before.listing here
  for (name, content) in after.listing here do
    let bytes := content.toBytes
    if (old.lookup name).map Content.toBytes != some bytes then
      IO.FS.createDirAll (Path.ofText name).parent.text
      IO.FS.writeBinFile name ⟨bytes.toArray⟩

def logText : LogLine → String
  | .object fields => Json.render .line (.record fields)
  | .text line => line

end SoapStubs.Cli

open SoapStubs SoapStubs.Cli in
/-- Runs a command line. -/
def main (arguments : List String) : IO UInt32 := do
  let files ← gatherFiles arguments
  let environment ← gatherEnvironment
  let now ← Std.Time.Timestamp.now
  let clock := toString now.toMillisecondsSinceUnixEpoch.val
  let m : Machine := { surroundings := { files, environment, clock } }
  let (after, outcome) := m.run arguments
  writeFiles files after.surroundings.files
  for e in outcome.events do
    for line in ((after.log.lines e).toOption).getD [] do
      IO.eprintln (logText line)
  for line in outcome.printed do
    IO.println line
  if let some f := outcome.unhandled then IO.eprintln (f.label ++ ": " ++ f.shown)
  return UInt32.ofNat outcome.code
