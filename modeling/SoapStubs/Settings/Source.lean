import SoapStubs.FileTree
import SoapStubs.Json.Reader
import SoapStubs.Settings.Check
import SoapStubs.Settings.EnvFile
import SoapStubs.Text.Lower

/-!
# Sources of settings

Settings are given by name, by variables of the environment, by variables of a file or by folders
with a file for each value.  What is given by name counts before the environment, the environment
before the file and the file before the folders.

* `Settings.Manner` is how the sources are read, which named values may change;
* `Settings.Manner.ofVariables` are the fields that variables set;
* `Settings.Manner.ofFolders` are the fields that files in folders set;
* `Settings.Manner.named` are the fields that named values set;
* `Settings.gather` reads the settings from all sources.
-/

namespace SoapStubs

/-- Where settings are looked for beside the values given by name. -/
structure Surroundings where
  files : FileTree := {}
  environment : List (String × String) := []
  /-- The name of a run that is given none. -/
  clock : String := ""
  deriving Inhabited

namespace Settings

/-- Is the field a list?  A variable writes it in JSON. -/
def isListField (name : String) : Bool := name == "package_conversions" || name == "classpath"

/-! ### How sources are read -/

/-- What the names of variables start with, if nothing else is asked for. -/
def variableStart : String := "CLIENTGEN_"

/-- How names are looked up and where. -/
structure Manner where
  /-- What the names of variables start with; only a text is of use. -/
  start : Value := .text variableStart
  /-- The files of variables, those that count most last. -/
  files : List Path := [.ofText ".env"]
  /-- Does the case of names matter? -/
  byCase : Bool := false
  /-- Do empty variables count as missing? -/
  passEmpty : Bool := false
  /-- The text of a variable that stands for null. -/
  nullWord : Option String := none
  /-- What stands between the name of a field and the name of a part of it; if empty, variables
  name no parts. -/
  joint : String := ""
  /-- The folders with a file for each value, those that count most last. -/
  folders : Value := .null
  deriving Inhabited

namespace Manner

def pathsOf (v : Value) : Except Cause (List Path) :=
  match v with
  | .null => .ok []
  | .text s => .ok [.ofText s]
  | _ => do
    (← v.elements).mapM fun
      | .text s => .ok (.ofText s)
      | w => .error (.wrongType ("argument should be a str or an os.PathLike object where " ++
          "__fspath__ returns a str, not " ++ Text.quote w.typeName))

/-- The manner that named values ask for. -/
def ofGiven (given : List (String × Value)) : Except Cause Manner := do
  let value (name : String) : Value := (Ordered.get? given name).getD .null
  let standard : Manner := {}
  let files ← match Ordered.get? given "_env_file" with
    | none => .ok standard.files
    | some v => pathsOf v
  return {
    start := match value "_env_prefix" with
      | .null => standard.start
      | v => v
    files
    byCase := (value "_case_sensitive").truthy
    passEmpty := (value "_env_ignore_empty").truthy
    nullWord := (value "_env_parse_none_str").text?
    joint := (value "_env_nested_delimiter").text?.getD ""
    folders := value "_secrets_dir" }

/-- A name as it is compared. -/
def fold (m : Manner) (name : String) : String := if m.byCase then name else Text.lower name

/-- The name of a field's variable, as it is compared. -/
def variableOf (m : Manner) (source field : String) : Except Failure String :=
  match m.start with
  | .text s => .ok (m.fold (s ++ field))
  | _ => .error (.bare (.settings ("error getting value for field \"" ++ field ++
      "\" from source \"" ++ source ++ "\"")))

/-- The variables that count. -/
def counted (m : Manner) (vars : List (String × Option String)) : List (String × Option String) :=
  vars.filter fun (_, v) => !(m.passEmpty && v == some "")

/-- The value of a variable.  The last variable of a name counts, and one without a value sets
nothing. -/
def lookup (m : Manner) (vars : List (String × Option String)) (wanted : String) :
    Option String :=
  ((m.counted vars).reverse.find? fun (name, _) => m.fold name == wanted).bind Prod.snd

/-- The parts of a field that variables name: what follows the joint, with its value. -/
def parts (m : Manner) (vars : List (String × Option String)) (wanted : String) :
    List (Value × Value) :=
  if m.joint == "" then []
  else (m.counted vars).filterMap fun (name, v) =>
    (Text.after? (wanted ++ m.joint) (m.fold name)).map fun part =>
      (.text part, v.elim .null .text)

/-- The value of a field that is written in a variable; a null in JSON sets nothing. -/
def valueOf (m : Manner) (source field text : String) : Except Failure (Option Value) :=
  if m.nullWord == some text then .ok (some .null)
  else if isListField field then
    match Json.read text with
    | .error (.recursion m) => .error (.bare (.recursion m))
    | .error _ =>
      .error (.bare (.settings ("error parsing value for field \"" ++ field ++
        "\" from source \"" ++ source ++ "\"")))
    | .ok .null => .ok none
    | .ok v => .ok (some v)
  else .ok (some (.text text))

/-- The fields that variables set. -/
def ofVariables (m : Manner) (source : String) (vars : List (String × Option String)) :
    Except Failure (Ordered String Value) := do
  let found ← fieldNames.mapM fun field => do
    let wanted ← m.variableOf source field
    match m.lookup vars wanted with
    | none =>
      let parts := if isListField field then m.parts vars wanted else []
      return if parts.isEmpty then none else some (field, .map parts)
    | some text => return (← m.valueOf source field text).map fun v => (field, v)
  return found.filterMap id

/-- The file for a name in a folder. -/
def fileIn? (m : Manner) (t : FileTree) (wanted : String) (folder : Path) : Option Path :=
  ((t.namesIn folder).find? fun name => m.fold name == wanted).map folder.child

/-- The fields that the files in folders set. -/
def ofFolders (m : Manner) (t : FileTree) : Except Failure (Ordered String Value) := do
  let source := "SecretsSettingsSource"
  let folders := (← bare (pathsOf m.folders)).filter t.has
  if folders.any fun p => !t.isDirectory p then
    .error (.bare (.settings "secrets_dir must reference a directory, not a file"))
  if folders.isEmpty then return []
  let found ← fieldNames.mapM fun field => do
    let wanted ← m.variableOf source field
    match (folders.reverse.filterMap (m.fileIn? t wanted)).find? t.isFile with
    | none => return none
    | some p =>
      match t.readText p with
      | .error _ => .error (.bare (.settings ("error getting value for field \"" ++ field ++
          "\" from source \"" ++ source ++ "\"")))
      | .ok text =>
        let value ← { m with nullWord := none }.valueOf source field (Text.strip text)
        return value.map fun v => (field, v)
  return found.filterMap id

/-- The fields that named values set: of several names for a field the first counts.  Names of no
field are passed over. -/
def named (m : Manner) (given : List (String × Value)) : Ordered String Value :=
  fieldNames.filterMap fun field =>
    (given.find? fun (name, _) => m.fold name == field).map fun (_, v) => (field, v)

def variablesOfFiles (m : Manner) (w : Surroundings) :
    Except Failure (List (String × Option String)) := do
  let each ← (m.files.filter w.files.isFile).mapM fun p => do
    return EnvFile.read w.environment (← bare (w.files.readText p))
  return each.flatten

end Manner

/-- The settings of named values and their surroundings. -/
def gather (w : Surroundings) (given : List (String × Value)) : Except Failure Settings := do
  let m ← bare (Manner.ofGiven given)
  let lines ← m.variablesOfFiles w
  let environment ← m.ofVariables "EnvSettingsSource" (w.environment.map fun (k, v) => (k, some v))
  let file ← m.ofVariables "DotEnvSettingsSource" lines
  let folders ← m.ofFolders w.files
  let unnamed := Ordered.putAll (Ordered.putAll folders file) environment
  ofFields w.clock (Ordered.putAll unnamed (m.named given))

/-- Named values without those that are null. -/
def stated (given : List (String × Value)) : List (String × Value) :=
  given.filter fun (_, v) => match v with
    | .null => false
    | _ => true

end Settings

end SoapStubs
