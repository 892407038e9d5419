import SoapStubs.FileTree
import SoapStubs.Json.Reader

/-!
# Programs

The programs that can be run in place of a compiler, and how a command finds one.

* `Program` is what a program does with its arguments, `Exit` how it ends;
* `Program.echo` writes its arguments, with escapes if it is asked to;
* `Program.find` is the program of a name: a name with a slash is a path, any other one is looked
  up among the programs.  Files and directories can be named, but not run.
-/

namespace SoapStubs

/-- How a program ended. -/
structure Exit where
  code : Int
  output : List UInt8 := []
  deriving DecidableEq, Repr, Inhabited

/-- A program: how it ends with given arguments. -/
abbrev Program := List String → Exit

namespace Program

/-! ### Writing arguments -/

/-- Is the argument made of the letters that `echo` takes for options? -/
def isEchoOption (argument : String) : Bool :=
  match argument.toList with
  | '-' :: c :: cs => (c :: cs).all fun c => c == 'n' || c == 'e' || c == 'E'
  | _ => false

/-- The bytes that escapes of one letter stand for. -/
def letterEscapes : List (Char × UInt8) :=
  [('a', 7), ('b', 8), ('e', 27), ('f', 12), ('n', 10), ('r', 13), ('t', 9), ('v', 11), ('\\', 92)]

def charBytes (c : Char) : List UInt8 := (String.singleton c).toUTF8.toList

/-- Is the character an octal digit? -/
def isOctal (c : Char) : Bool := '0' ≤ c && c ≤ '7'

/-- The byte of at most `most` digits of a base, and what follows them; nothing without a digit. -/
def number? (base most : Nat) (isDigit : Char → Bool) (cs : List Char) :
    Option (UInt8 × List Char) :=
  match (cs.take most).takeWhile isDigit with
  | [] => none
  | digits =>
    let n := digits.foldl (fun n c => base * n + (Json.hexValue? c).getD 0) 0
    some (UInt8.ofNat n, cs.drop digits.length)

/-- What an escape writes and what follows it.  What is no escape is written as it stands. -/
def escape (c : Char) (rest : List Char) : List UInt8 × List Char :=
  match letterEscapes.lookup c with
  | some b => ([b], rest)
  | none =>
    let found :=
      if c = 'x' then number? 16 2 (fun d => (Json.hexValue? d).isSome) rest
      else if c = '0' then some ((number? 8 3 isOctal rest).getD (0, rest))
      else if isOctal c then number? 8 3 isOctal (c :: rest)
      else none
    match found with
    | some (b, rest) => ([b], rest)
    | none => (92 :: charBytes c, rest)

/-- What a text with escapes writes, and whether it ends all writing. -/
def escaped : (fuel : Nat) → List Char → List UInt8 × Bool
  | 0, _ => ([], false)
  | fuel + 1, cs =>
    match cs with
    | [] => ([], false)
    | '\\' :: 'c' :: _ => ([], true)
    | '\\' :: c :: rest =>
      let (bytes, rest) := escape c rest
      let (more, ended) := escaped fuel rest
      (bytes ++ more, ended)
    | c :: rest =>
      let (more, ended) := escaped fuel rest
      (charBytes c ++ more, ended)

/-- Are escapes asked for?  The last option counts. -/
def wantsEscapes (options : List String) : Bool :=
  (options.flatMap String.toList).foldl
    (fun wanted c => if c == 'e' then true else if c == 'E' then false else wanted) false

/-- Writes its arguments with blanks between them and a line end. -/
def echo : Program := fun arguments =>
  let options := arguments.takeWhile isEchoOption
  let text := Text.join " " (arguments.drop options.length)
  let ending : List UInt8 := if options.any fun o => o.toList.contains 'n' then [] else [10]
  if wantsEscapes options then
    let (bytes, ended) := escaped (text.length + 1) text.toList
    ⟨0, if ended then bytes else bytes ++ ending⟩
  else ⟨0, text.toUTF8.toList ++ ending⟩

/-! ### Finding programs -/

/-- The programs that can be run, by name. -/
def table : List (String × Program) :=
  [("true", fun _ => ⟨0, []⟩), ("false", fun _ => ⟨1, []⟩), ("echo", echo)]

/-- What is said of a path that is named as a program: nothing if nothing is there. -/
def atPath (t : FileTree) (name : String) : Except Cause (Option Program) :=
  let p := Path.ofText name
  match t.locate p with
  | .error .missing => .ok none
  | .error problem => .error (problem.cause p.text)
  | .ok l =>
    match t.lookup l with
    | none => .ok none
    | some .directory => .error (.file .denied name)
    | some (.file _) =>
      .error (.file (if Text.endsIn "/" name then .notDirectory else .denied) name)

def find (t : FileTree) (name : String) : Except Cause (Option Program) :=
  if name.toList.contains '/' then atPath t name
  else if name = "" || name = "." || name = ".." then .error (.file .denied name)
  else if FileTree.longestName < name.utf8ByteSize then .error (.file .nameTooLong name)
  else .ok (table.lookup name)

end Program

end SoapStubs
