import SoapStubs.FileTree
import SoapStubs.Ordered

/-!
# Arguments of the command line

* `Flag` is an option that may be given, with or without a value;
* `Arguments.read?` tells options and other arguments apart;
* `Command` is what the command line asks for, and `Command.read?` reads it.

A command line that is not understood has no reading, and neither has one that names a file that
is not there.
-/

namespace SoapStubs.Cli

/-- An option that may be given. -/
structure Flag where
  /-- The name under which it is kept. -/
  key : String
  /-- The name after two dashes. -/
  long : String
  /-- The letter after one dash. -/
  short : Option Char := none
  valued : Bool := false
  deriving Repr, Inhabited

/-- Options with their values, and other arguments. -/
structure Arguments where
  /-- The options; the last value of one counts. -/
  options : Ordered String String := []
  others : List String := []
  deriving Repr, Inhabited

namespace Arguments

variable (flags : List Flag)

/-- The letters of an argument after one dash: flags, of which the last may have a value that
follows it or is the next argument.  The result is the options and the arguments left. -/
def letters? (found : Arguments) (next : List String) :
    List Char → Option (Arguments × List String)
  | [] => some (found, next)
  | c :: cs =>
    match flags.find? (·.short == some c) with
    | none => none
    | some f =>
      if f.valued then
        match cs, next with
        | [], [] => none
        | [], v :: next => some ({ found with options := found.options.put f.key v }, next)
        | cs, next =>
          some ({ found with options := found.options.put f.key (String.ofList cs) }, next)
      else letters? { found with options := found.options.put f.key "" } next cs

/-- An argument after two dashes, with its value behind an equals sign or in the next argument. -/
def word? (found : Arguments) (next : List String) (argument : List Char) :
    Option (Arguments × List String) :=
  let (name, rest) := argument.span (· != '=')
  match flags.find? (·.long == String.ofList name), rest with
  | none, _ => none
  | some f, '=' :: v =>
    if f.valued then
      some ({ found with options := found.options.put f.key (String.ofList v) }, next)
    else none
  | some f, _ =>
    if f.valued then
      match next with
      | [] => none
      | v :: next => some ({ found with options := found.options.put f.key v }, next)
    else some ({ found with options := found.options.put f.key "" }, next)

/-- The options and other arguments.  With `mixed` options may follow other arguments; without it
all that follows the first other argument is left as it is. -/
def collect? (mixed : Bool) :
    (fuel : Nat) → (found : Arguments) → List String → Option Arguments
  | 0, _, _ => none
  | _ + 1, found, [] => some found
  | fuel + 1, found, a :: rest =>
    match a.toList with
    | ['-', '-'] => some { found with others := found.others ++ rest }
    | '-' :: '-' :: name => do
      let (found, rest) ← word? flags found rest name
      collect? mixed fuel found rest
    | '-' :: c :: cs => do
      let (found, rest) ← letters? flags found rest (c :: cs)
      collect? mixed fuel found rest
    | _ =>
      if mixed then collect? mixed fuel { found with others := found.others ++ [a] } rest
      else some { found with others := found.others ++ a :: rest }

/-- The options and other arguments of a command line. -/
def read? (mixed : Bool) (arguments : List String) : Option Arguments :=
  collect? flags mixed (arguments.length + 1) {} arguments

end Arguments

/-- The options of a generation. -/
structure GenerateOptions where
  model : Path
  config : Option Path := none
  /-- The directory that everything is written to. -/
  outputDir : Option Path := none
  runId : Option String := none
  /-- Are both variants worked on at the same time? -/
  parallel : Bool := false
  /-- Are sources only generated and not compiled? -/
  skipCompile : Bool := false
  deriving Repr, Inhabited

/-- What the command line asks for. -/
inductive Command where
  | version
  /-- The generation of client libraries. -/
  | generate (options : GenerateOptions)
  /-- The content of a metadata file. -/
  | inspect (file : Path)
  deriving Repr, Inhabited

namespace Command

/-- The options before a command. -/
def globalFlags : List Flag := [{ key := "version", long := "version", short := some 'V' }]

/-- The options of a generation. -/
def generateFlags : List Flag :=
  [{ key := "config", long := "config", short := some 'c', valued := true },
    { key := "output", long := "output-dir", short := some 'o', valued := true },
    { key := "run", long := "run-id", valued := true },
    { key := "parallel", long := "parallel" },
    { key := "skip", long := "skip-compile" }]

/-- Can the text only name a directory? -/
def namesDirectory (name : String) : Bool := Text.endsIn "/" name || Text.endsIn "/." name

def file? (t : FileTree) (name : String) : Option Path :=
  if t.isFile (.ofText name) && !namesDirectory name then some (.ofText name) else none

/-- The path that a text names; no path has a null character. -/
def path? (name : String) : Option Path :=
  if name.toList.contains '\x00' then none else some (.ofText name)

/-- The texts of an argument that may name a file: all of it, what follows an equals sign, and what
follows a dash and a letter. -/
def fileNames (argument : String) : List String :=
  let cs := argument.toList
  [argument, String.ofList ((cs.dropWhile (· != '=')).drop 1), String.ofList (cs.drop 2)]

/-- The generation that arguments ask for. -/
def generate? (t : FileTree) (arguments : List String) : Option Command := do
  let found ← Arguments.read? generateFlags true arguments
  match found.others with
  | [name] =>
    let model ← file? t name
    let config ← match found.options.get? "config" with
      | none => some none
      | some name => (file? t name).map some
    let outputDir ← match found.options.get? "output" with
      | none => some none
      | some name => (path? name).map some
    return .generate {
      model, config, outputDir
      runId := found.options.get? "run", parallel := found.options.has "parallel"
      skipCompile := found.options.has "skip" }
  | _ => none

/-- The inspection that arguments ask for. -/
def inspect? (t : FileTree) (arguments : List String) : Option Command := do
  let found ← Arguments.read? [] true arguments
  match found.others with
  | [name] => return .inspect (← file? t name)
  | _ => none

/-- What a command line asks for. -/
def read? (t : FileTree) (arguments : List String) : Option Command := do
  let found ← Arguments.read? globalFlags false arguments
  if found.options.has "version" then return .version
  else
    match found.others with
    | "generate" :: rest => generate? t rest
    | "inspect" :: rest => inspect? t rest
    | _ => none

end Command

end SoapStubs.Cli
