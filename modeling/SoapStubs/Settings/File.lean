import SoapStubs.Settings.Source
import SoapStubs.Yaml.Document

/-!
# Settings in files

* `Settings.fileFields` reads the named values of a file;
* `Settings.load` reads settings from a file, from values given by name, which count before those of
  the file, and from the surroundings.
-/

namespace SoapStubs.Settings

def fileDocument (t : FileTree) (p : Path) : Except Failure Value :=
  match t.readText p >>= Yaml.read with
  | .ok v => .ok (v.orElse (.map []))
  | .error c =>
    match c with
    | .file .. => .error (.of (.cannotReadSettings p.text) [] (some c))
    | .yaml _ => .error (.of (.settingsNotYaml p.text) [] (some c))
    | _ => .error (.bare c)

def nameOf : Value → Except Failure String
  | .text s => .ok s
  | _ => .error (.bare (.wrongType "keywords must be strings"))

/-- The named values of a file. -/
def fileFields (t : FileTree) (p : Path) : Except Failure (List (String × Value)) := do
  match ← fileDocument t p with
  | .map entries => entries.mapM fun (k, v) => do return (← nameOf k, v)
  | _ => .error (.of (.settingsNotMapping p.text))

/-- The names that values cannot be given by, since they have another meaning. -/
def takenNames : List String := ["path"]

/-- The settings of a file, of values given by name and of the surroundings.  Values that are null
are not given. -/
def load (w : Surroundings) (file : Option Path) (given : List (String × Value))
    (taken : List String := takenNames) : Except Failure Settings := do
  if let some (name, _) := given.find? fun (name, _) => taken.contains name then
    .error (.bare (.wrongType ("no value can have the name " ++ Text.quote name)))
  let fields ← match file with
    | none => .ok []
    | some p => fileFields w.files p
  gather w (Ordered.putAll fields (stated given))

end SoapStubs.Settings
