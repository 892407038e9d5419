import SoapStubs.Failure
import SoapStubs.Number.Digits
import SoapStubs.Settings
import SoapStubs.Value.Access

/-!
# Checking settings

Settings are read from named values.  Every field is checked, whatever became of the ones before it,
so that the objections to all fields are known together; one of them is then reported.

* `Issue` is an objection to a value and where the value stands;
* `Check.string`, `Check.integer`, `Check.boolean`, `Check.path`, `Check.list` and
  `Check.conversion` read values of a kind;
* `Settings.ofFields` reads settings, and `Issue.report` picks the objection to report.
-/

namespace SoapStubs

/-- An objection to a value. -/
structure Issue where
  /-- Where the value stands, from the field on. -/
  location : List String
  reason : String
  absent : Bool := false
  deriving DecidableEq, Repr, Inhabited

/-- A value of a kind or the objections to it. -/
abbrev Checked (α : Type) := Except (List Issue) α

namespace Checked

variable {α β : Type}

/-- The objections. -/
def issues : Checked α → List Issue
  | .ok _ => []
  | .error is => is

/-- The objections of one check. -/
def refuse (location : List String) (reason : String) : Checked α := .error [{ location, reason }]

/-- Both values or the objections to both. -/
def both (x : Checked α) (y : Checked β) : Checked (α × β) :=
  match x, y with
  | .ok a, .ok b => .ok (a, b)
  | x, y => .error (x.issues ++ y.issues)

end Checked

namespace Check

/-- The text that bytes write. -/
def bytesText? (b : List UInt8) : Option String := String.fromUTF8? ⟨b.toArray⟩

/-- A text. -/
def string (location : List String) : Value → Checked String
  | .text s => .ok s
  | .bytes b =>
    match bytesText? b with
    | some s => .ok s
    | none =>
      Checked.refuse location
        "Input should be a valid string, unable to parse raw data as a unicode string"
  | _ => Checked.refuse location "Input should be a valid string"

def path (location : List String) : Value → Checked Path
  | .text s => .ok (.ofText s)
  | _ => Checked.refuse location "Input is not a valid path for <class 'pathlib.Path'>"

/-- A value that may be missing. -/
def optional {α : Type} (check : Value → Checked α) : Value → Checked (Option α)
  | .null => .ok none
  | v => (check v).map some

/-! ### Numbers -/

/-- Does a number go on with the character: a digit above zero or a sign? -/
def goesOn (c : Char) : Bool := ('1' ≤ c && c ≤ '9') || c == '-'

/-- What is left behind leading zeros of which `last` was the last character.  Single underscores
may stand between zeros, and a zero stays if nothing or a point follows. -/
def afterZeros (last : Char) : List Char → Option (List Char)
  | [] => some [last]
  | c :: cs =>
    if c == '0' || (c == '_' && last == '0') then afterZeros c cs
    else if goesOn c then some (c :: cs)
    else if c == '.' then some (last :: c :: cs)
    else none

/-- The characters without leading zeros. -/
def dropZeros : List Char → Option (List Char)
  | [] => none
  | '0' :: cs => afterZeros '0' cs
  | c :: cs => if goesOn c then some (c :: cs) else none

/-- The characters without a point and zeros at their end. -/
def dropPointZeros (cs : List Char) : List Char :=
  match cs.span (· != '.') with
  | (whole, '.' :: c :: rest) => if (c :: rest).all (· == '0') then whole else cs
  | _ => cs

/-- The characters without underscores, if those stand one by one between others. -/
def dropUnderscores (cs : List Char) : List Char :=
  if (Text.pieces '_' cs).any List.isEmpty then cs else cs.filter (· != '_')

/-- The characters without a plus sign in front. -/
def dropPlus : List Char → List Char
  | '+' :: cs => cs
  | cs => cs

/-- The digits that a number may be written with. -/
def longestNumber : Nat := 4300

/-- What is said of a number with too many digits. -/
def tooLong : String := "Unable to parse input string as an integer, exceeded maximum size"

/-- What is said of a text that is no number. -/
def noInteger : String := "Input should be a valid integer, unable to parse string as an integer"

/-- The number of digits, of which only a zero alone begins with a zero. -/
def numberOf (cs : List Char) : Except String Nat :=
  let (digits, rest) := Number.spanDigits cs
  if longestNumber < digits.length then .error tooLong
  else if digits.isEmpty || !rest.isEmpty || (digits.head? == some '0' && 1 < digits.length) then
    .error noInteger
  else .ok (Number.digitsValue digits)

/-- The number that a text writes between blanks: a sign, digits and a point with zeros. -/
def integerText (s : String) : Except String Int :=
  match dropZeros (dropPlus (Text.trimBy Number.isMargin s.toList)) with
  | none => .error noInteger
  | some cs =>
    match dropUnderscores (dropPointZeros cs) with
    | '-' :: cs => (numberOf cs).map fun n => -(n : Int)
    | cs => (numberOf cs).map Int.ofNat

/-- Is the number one of 64 bits, its least value excepted? -/
def isWord (n : Int) : Bool := n.natAbs < Nat.pow 2 63

/-- A whole number. -/
def integer (location : List String) : Value → Checked Int
  | .int n => .ok n
  | .bool b => .ok (if b then 1 else 0)
  | .float x =>
    match x with
    | .finite .. =>
      match x.toInt? with
      | some n => if isWord n then .ok n else Checked.refuse location tooLong
      | none =>
        Checked.refuse location
          "Input should be a valid integer, got a number with a fractional part"
    | _ => Checked.refuse location "Input should be a finite number"
  | .text s => ofText s
  | .bytes b =>
    match bytesText? b with
    | some s => ofText s
    | none => Checked.refuse location noInteger
  | _ => Checked.refuse location "Input should be a valid integer"
where
  ofText (s : String) : Checked Int :=
    match integerText s with
    | .ok n => .ok n
    | .error reason => Checked.refuse location reason

/-- A whole number above zero. -/
def positive (location : List String) (v : Value) : Checked Int := do
  let n ← integer location v
  if 0 < n then return n else Checked.refuse location "Input should be greater than 0"

/-! ### Truth values -/

def falseWords : List String := ["0", "off", "f", "false", "n", "no"]

def trueWords : List String := ["1", "on", "t", "true", "y", "yes"]

/-- What is said of a value that could be a truth value and is none. -/
def unclear : String := "Input should be a valid boolean, unable to interpret input"

/-- What is said of a value that cannot be a truth value. -/
def noBoolean : String := "Input should be a valid boolean"

/-- A truth value: one, zero, or a word for it. -/
def boolean (location : List String) : Value → Checked Bool
  | .bool b => .ok b
  | .int n => ofInt n
  | .float x =>
    match x.toInt? with
    | some n => ofInt n
    | none => Checked.refuse location noBoolean
  | .text s => ofText s
  | .bytes b =>
    match bytesText? b with
    | some s => ofText s
    | none => Checked.refuse location unclear
  | _ => Checked.refuse location noBoolean
where
  /-- The truth value of a number. -/
  ofInt (n : Int) : Checked Bool :=
    if n = 0 then .ok false
    else if n = 1 then .ok true
    else Checked.refuse location (if isWord n then unclear else noBoolean)
  /-- The truth value of a word. -/
  ofText (s : String) : Checked Bool :=
    let word := Text.lowerAscii s
    if falseWords.contains word then .ok false
    else if trueWords.contains word then .ok true
    else Checked.refuse location unclear

/-! ### Lists and conversions -/

/-- The items of a list, numbered from `i`, or the objections to all of them. -/
def items {α : Type} (check : List String → Value → Checked α) (location : List String) :
    (i : Nat) → List Value → Checked (List α)
  | _, [] => .ok []
  | i, v :: vs =>
    (Checked.both (check (location ++ [toString i]) v) (items check location (i + 1) vs)).map
      fun (a, as) => a :: as

def list {α : Type} (check : List String → Value → Checked α) (location : List String) :
    Value → Checked (List α)
  | .list vs | .tuple vs | .set vs => items check location 0 vs
  | _ => Checked.refuse location "Input should be a valid list"

/-- A text under the first of some names that there is; without any, the first name is missing. -/
def member (location : List String) (v : Value) (first : String) (others : List String) :
    Checked String :=
  match (first :: others).findSome? fun name => (v.field? name).map fun x => (name, x) with
  | some (name, x) => string (location ++ [name]) x
  | none =>
    .error [{ location := location ++ [first], reason := "Field required", absent := true }]

def conversion (location : List String) (v : Value) : Checked Rule :=
  match v with
  | .map _ =>
    (Checked.both (member location v "from" ["from_"]) (member location v "to" [])).map
      fun (source, target) => ⟨source, target⟩
  | _ =>
    Checked.refuse location
      "Input should be a valid dictionary or instance of PackageConversion"

/-! ### Fields -/

/-- A name of a run, which becomes part of file names. -/
def runId (location : List String) (v : Value) : Checked String := do
  let s ← string location v
  if s = "" || s.toList.contains '/' || s.toList.contains '\\' then
    Checked.refuse location "Value error, run_id must be a non-empty file-name-safe string"
  else return s

/-- A context path in normal form; a value that is neither text nor empty has none. -/
def context : Value → Except Cause String
  | .text s => .ok (normalContext s)
  | .bytes b =>
    if b.isEmpty then .ok "" else .error (.wrongType "a bytes-like object is required, not 'str'")
  | v => if v.truthy then .error (v.lacks "strip") else .ok ""

end Check

/-- The objection to report: a conversion without one of its sides, or else the first one. -/
def Issue.report (issues : List Issue) : Failure :=
  let cause := some (Cause.validation "")
  let isSide (i : Issue) : Bool :=
    i.absent && i.location.head? == some "package_conversions"
  match issues.find? isSide with
  | some i =>
    .of (.missingSide (i.location.getLast?.getD ""))
      [("entity", .text (Text.join "." i.location))] cause
  | none =>
    match issues with
    | [] => .of (.invalidSetting "" "") [] cause
    | i :: _ => .of (.invalidSetting (Text.join "." i.location) i.reason) [] cause

namespace Settings

def fieldNames : List String :=
  ["label", "archive_name", "run_id", "package_conversions", "deployment_protocol",
    "deployment_host", "deployment_context", "output_dir", "template_dir", "classpath", "javac",
    "javac_timeout", "parallel_variants", "log_level", "log_format"]

/-- The settings of named values; a field without a value keeps its default.  A context path that
is no text ends the reading; all other objections are collected. -/
def ofFields (clock : String) (fields : Ordered String Value) : Except Failure Settings := do
  let default : Settings := { runId := clock }
  let read {α : Type} (name : String) (check : List String → Value → Checked α) (otherwise : α) :
      Checked α :=
    match fields.get? name with
    | none => .ok otherwise
    | some v => check [name] v
  let context ← match fields.get? "deployment_context" with
    | none => .ok default.deploymentContext
    | some v => bare (Check.context v)
  let label := read "label" Check.string default.label
  let archiveName := read "archive_name" (fun l => Check.optional (Check.string l))
    default.archiveName
  let runId := read "run_id" Check.runId default.runId
  let conversions := read "package_conversions" (Check.list Check.conversion) default.conversions
  let protocol := read "deployment_protocol" Check.string default.deploymentProtocol
  let host := read "deployment_host" Check.string default.deploymentHost
  let outputDir := read "output_dir" Check.path default.outputDir
  let templateDir := read "template_dir" (fun l => Check.optional (Check.path l))
    default.templateDir
  let classpath := read "classpath" (Check.list Check.string) default.classpath
  let javac := read "javac" Check.string default.javac
  let javacTimeout := read "javac_timeout" Check.positive default.javacTimeout
  let parallel := read "parallel_variants" Check.boolean default.parallelVariants
  let logLevel := read "log_level" Check.string default.logLevel
  let logFormat := read "log_format" Check.string default.logFormat
  -- in the order of the fields, and all of them: `settled` ends with the first one
  let issues := label.issues ++ archiveName.issues ++ runId.issues ++ conversions.issues ++
    protocol.issues ++ host.issues ++ outputDir.issues ++ templateDir.issues ++
    classpath.issues ++ javac.issues ++ javacTimeout.issues ++ parallel.issues ++
    logLevel.issues ++ logFormat.issues
  let settled : Checked Settings := do
    return { label := ← label, archiveName := ← archiveName, runId := ← runId
             conversions := ← conversions, deploymentProtocol := ← protocol
             deploymentHost := ← host, deploymentContext := context, outputDir := ← outputDir
             templateDir := ← templateDir, classpath := ← classpath, javac := ← javac
             javacTimeout := ← javacTimeout, parallelVariants := ← parallel
             logLevel := ← logLevel, logFormat := ← logFormat }
  settled.mapError fun _ => Issue.report issues

end Settings

end SoapStubs
