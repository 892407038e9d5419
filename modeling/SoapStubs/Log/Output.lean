import SoapStubs.Log
import SoapStubs.Text.Casing
import SoapStubs.Text.Line
import SoapStubs.Text.Lower
import SoapStubs.Value.Print

/-!
# Writing the log

* `LogOutput` says which entries are written and in which form;
* `LogOutput.configure` sets it up, once unless it is forced to;
* `LogOutput.lines` are the lines for an entry: none, if it is not written.
-/

namespace SoapStubs

/-- The forms of the log. -/
inductive LogFormat where
  /-- A JSON object for each entry. -/
  | json
  /-- A line to be read for each entry. -/
  | console
  deriving DecidableEq, Repr, Inhabited

def Level.weight : Level → Nat
  | .debug => 10
  | .info => 20
  | .warning => 30
  | .error => 40
  | .critical => 50

/-- The weights by the names that a configuration uses. -/
def levelNames : List (String × Nat) :=
  [("NOTSET", 0), ("DEBUG", 10), ("INFO", 20), ("WARNING", 30), ("WARN", 30), ("ERROR", 40),
    ("CRITICAL", 50), ("FATAL", 50)]

/-- The least weight that a name stands for.  Two of the names that are known stand for something
that is no weight. -/
def leastWeight (name : String) : Except Cause Nat :=
  match levelNames.lookup name with
  | some weight => .ok weight
  | none =>
    if name = "BASIC_FORMAT" then
      .error (.invalid "Unknown level: '%(levelname)s:%(name)s:%(message)s'")
    else if name = "_STYLES" then .error (.wrongType "Level not an integer or a valid string")
    else .error (.noMember ("no level has the name " ++ Text.quote name))

/-- Which entries are written, and how. -/
structure LogOutput where
  format : LogFormat := .console
  /-- The least weight that is written; without one nothing is. -/
  least : Option Nat := none
  configured : Bool := false
  deriving DecidableEq, Repr, Inhabited

/-- A line of the log. -/
inductive LogLine where
  | object (fields : Ordered String Value)
  | text (line : String)
  deriving Inhabited

namespace LogOutput

/-- A choice that is given, or one of the environment, or the usual one.  What is given has to be a
text, with the member `wanted`. -/
def choice (given : Value) (environment : List (String × String)) (name usual wanted : String) :
    Except Cause String :=
  match given with
  | .text s => .ok (if s.isEmpty then (environment.lookup name).getD usual else s)
  | v => if v.truthy then .error (v.lacks wanted) else .ok ((environment.lookup name).getD usual)

/-- The output after a configuration, and whether that was possible.  With a level that has no
weight only the form changes. -/
def configure (o : LogOutput) (environment : List (String × String)) (level format : Value)
    (force : Bool := false) : LogOutput × Except Cause Unit :=
  if o.configured && !force then (o, .ok ())
  else
    let words := do
      let name ← choice level environment "CLIENTGEN_LOG_LEVEL" "INFO" "upper"
      return (Text.upper name,
        Text.lower (← choice format environment "CLIENTGEN_LOG_FORMAT" "console" "lower"))
    match words with
    | .error c => (o, .error c)
    | .ok (name, word) =>
      let o := { o with format := if word = "json" then .json else .console }
      match leastWeight name with
      | .ok least => ({ o with least := some least, configured := true }, .ok ())
      | .error c => (o, .error c)

/-- The text with blanks after it, at least as long as `width`. -/
def padTo (width : Nat) (s : String) : String :=
  s ++ String.ofList (List.replicate (width - s.length) ' ')

/-- Would the character make it unclear where a value in a line starts or ends? -/
def needsQuotes (c : Char) : Bool :=
  c == ' ' || c == '\t' || c == '\n' || c == '\r' || c == '=' || c == '"' || c == '\''

/-- A value in a line: a text as it is, unless it needs quotes. -/
def shown : Value → String
  | .text s => if s.toList.any needsQuotes then Text.quote s else s
  | v => v.quoted

/-- The fields that the log itself sets or takes away. -/
def ownFields : List String :=
  ["event", "level", "logger", "timestamp", "exc_info", "stack_info"]

/-- The fields that have a place of their own in the lines to be read. -/
def placedFields : List String := ["logger_name", "stack", "exception"]

/-- The fields of an entry by other names than these, in the order of their names. -/
def fieldsBeside (names : List String) (e : Event) : List (String × Value) :=
  (e.fields.filter fun (name, _) => !(names.contains name)).mergeSort fun a b => !(b.1 < a.1)

/-- The first of the lines to be read. -/
def headline (e : Event) : String :=
  Text.join " " ([
    "[" ++ padTo 9 e.level.label ++ "]", padTo 30 e.event, "[" ++ e.logger ++ "]"] ++
    ((e.fields.get? "logger_name").map fun v => "[" ++ v.plain ++ "]").toList ++
    (fieldsBeside (ownFields ++ placedFields) e).map fun (name, v) => name ++ "=" ++ shown v)

/-- A field whose text has lines of its own. -/
def paragraph? (e : Event) (name : String) : Except Cause (Option String) :=
  match e.fields.get? name with
  | none | some .null => .ok none
  | some (.text s) => .ok (some s)
  | some v => .error (.wrongType
      ("a text is needed, not a value of type " ++ v.typeName))

/-- The lines to be read for an entry.  A place and an exception follow on lines of their own, with
a rule between them. -/
def texts (e : Event) : Except Cause (List String) := do
  let stack ← paragraph? e "stack"
  let problem ← paragraph? e "exception"
  let rule := "\n\n" ++ String.ofList (List.replicate 79 '=') ++ "\n"
  let text := headline e ++ stack.elim "" ("\n" ++ ·) ++
    (if stack.isSome && problem.isSome then rule else "") ++ problem.elim "" ("\n" ++ ·)
  return (Text.lines text).map Text.stripEnd

def object (e : Event) : Ordered String Value :=
  Ordered.putAll (fieldsBeside ownFields e)
    [("event", .text e.event), ("level", .text e.level.label), ("logger", .text e.logger)]

def writes (o : LogOutput) (e : Event) : Bool := o.least.any (· ≤ e.level.weight)

/-- The lines for an entry: none, if it is not written. -/
def lines (o : LogOutput) (e : Event) : Except Cause (List LogLine) :=
  if o.writes e then
    match o.format with
    | .json => .ok [.object (object e)]
    | .console => (texts e).map (·.map LogLine.text)
  else .ok []

end LogOutput

end SoapStubs
