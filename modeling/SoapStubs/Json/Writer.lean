import SoapStubs.Json.Nesting
import SoapStubs.Number.Digits

/-!
# Writing JSON

A writer of JSON texts in two layouts: on one line, and with one item on a line, indented by two
blanks for each level.  Only ASCII characters are written; all others are escaped, those beyond
U+FFFF as a surrogate pair.

* `Json.Layout` is the layout;
* `Json.escape` writes a character of a string;
* `Json.write` writes a value, `Json.render` gives its text;
* `Json.check` says why a value cannot be written, if it cannot: the format has no form for it, or it
  is nested too deep.
-/

namespace SoapStubs.Json

/-- How the items of lists and mappings are laid out. -/
inductive Layout where
  | line
  | indented
  deriving DecidableEq, Repr, Inhabited

namespace Layout

/-- What stands in front of an item at a level. -/
def lead : Layout → Nat → List Char
  | .line, _ => []
  | .indented, level => '\n' :: List.replicate (2 * level) ' '

/-- What stands between two items at a level. -/
def comma : Layout → Nat → List Char
  | .line, _ => [',', ' ']
  | .indented, level => ',' :: lead .indented level

end Layout

/-- An escape for a code unit. -/
def unitEscape (n : Nat) : List Char := '\\' :: 'u' :: Text.hexDigits 4 n

/-- A character of a string. -/
def escape (c : Char) : List Char :=
  let n := c.toNat
  if c = '"' then ['\\', '"']
  else if c = '\\' then ['\\', '\\']
  else if c = '\n' then ['\\', 'n']
  else if c = '\r' then ['\\', 'r']
  else if c = '\t' then ['\\', 't']
  else if c = '\x0c' then ['\\', 'f']
  else if c = '\x08' then ['\\', 'b']
  else if 0x20 ≤ n ∧ n < 0x7F then [c]
  else if n < 0x10000 then unitEscape n
  else unitEscape (0xD800 + (n - 0x10000) / 0x400) ++ unitEscape (0xDC00 + (n - 0x10000) % 0x400)

/-- A string in its quotes. -/
def string (s : String) : List Char := '"' :: s.toList.flatMap escape ++ ['"']

/-- A floating-point number. -/
def float (x : Binary64) : List Char :=
  match x with
  | .nan => "NaN".toList
  | .infinite negative => if negative then "-Infinity".toList else "Infinity".toList
  | .finite .. => x.text.toList

def int (n : Int) : List Char :=
  if n < 0 then '-' :: Nat.toDigits 10 n.natAbs else Nat.toDigits 10 n.natAbs

/-- The name of a member. -/
def name : Value → String
  | .text s => s
  | .null => "null"
  | .bool b => if b then "true" else "false"
  | .int n => String.ofList (int n)
  | .float x => String.ofList (float x)
  | v => v.plain

variable (layout : Layout)

mutual

def write : (level : Nat) → Value → List Char
  | _, .null => "null".toList
  | _, .bool b => if b then "true".toList else "false".toList
  | _, .int n => int n
  | _, .float x => float x
  | _, .text s => string s
  | _, .bytes b => string (Value.quotedBytes b)
  | _, .date d => string d.text
  | _, .moment t => string t.text
  | _, .loop isMapping => string (Value.loop isMapping).plain
  | level, .list items => list level items
  | level, .tuple items => list level items
  | level, .set items => list level items
  | level, .map entries =>
    match entries with
    | [] => ['\x7b', '\x7d']
    | (k, v) :: rest =>
      '\x7b' :: layout.lead (level + 1) ++ string (name k) ++ ':' :: ' ' :: write (level + 1) v ++
        writeMembers (level + 1) rest ++ layout.lead level ++ ['\x7d']
termination_by structural _ v => v

def list : (level : Nat) → List Value → List Char
  | _, [] => ['[', ']']
  | level, v :: rest =>
    '[' :: layout.lead (level + 1) ++ write (level + 1) v ++ writeItems (level + 1) rest ++
      layout.lead level ++ [']']
termination_by structural _ items => items

/-- The items behind the first. -/
def writeItems : (level : Nat) → List Value → List Char
  | _, [] => []
  | level, v :: rest => layout.comma level ++ write level v ++ writeItems level rest
termination_by structural _ items => items

/-- The members behind the first. -/
def writeMembers : (level : Nat) → List (Value × Value) → List Char
  | _, [] => []
  | level, (k, v) :: rest =>
    layout.comma level ++ string (name k) ++ ':' :: ' ' :: write level v ++
      writeMembers level rest
termination_by structural _ entries => entries

end

/-- The text of a value. -/
def render (v : Value) : String := String.ofList (write layout 0 v)

/-- The cause for a value that the format has no form for. -/
def unwritable (v : Value) : Cause :=
  .wrongType ("Object of type " ++ v.typeName ++ " is not JSON serializable")

/-- Why the integer cannot be written, if it cannot: it has too many digits. -/
def checkInt (n : Int) : Except Cause Unit :=
  if Number.mostDigits < (Nat.toDigits 10 n.natAbs).length then
    .error (.invalid ("Exceeds the limit (" ++ toString Number.mostDigits ++
      " digits) for integer string conversion; use sys.set_int_max_str_digits() to increase " ++
      "the limit"))
  else .ok ()

mutual

/-- Why the value cannot be written with some room, if it cannot. -/
def checkIn : (room : Nat) → Value → Except Cause Unit
  | _, .date d => .error (unwritable (.date d))
  | _, .moment t => .error (unwritable (.moment t))
  | _, .bytes b => .error (unwritable (.bytes b))
  | _, .set items => .error (unwritable (.set items))
  | _, .loop _ => .error (.invalid "Circular reference detected")
  | _, .int n => checkInt n
  | room, .list items => inside room "" fun room => checkItems room items
  | room, .tuple items => inside room "" fun room => checkItems room items
  | room, .map entries => inside room "" fun room => checkMembers room entries
  | _, _ => .ok ()
termination_by structural _ v => v

/-- Why one of the items cannot be written, if one cannot. -/
def checkItems : (room : Nat) → List Value → Except Cause Unit
  | _, [] => .ok ()
  | room, v :: rest => do
    checkIn room v
    checkItems room rest
termination_by structural _ items => items

/-- Why one of the members cannot be written, if one cannot. -/
def checkMembers : (room : Nat) → List (Value × Value) → Except Cause Unit
  | _, [] => .ok ()
  | room, (k, v) :: rest => do
    match k with
    | .date _ | .moment _ | .bytes _ | .tuple _ | .list _ | .map _ | .set _ | .loop _ =>
      .error (.wrongType ("keys must be str, int, float, bool or None, not " ++ k.typeName))
    | .int n => checkInt n
    | _ => pure ()
    checkIn room v
    checkMembers room rest
termination_by structural _ entries => entries

end

/-- Why the value cannot be written, if it cannot. -/
def check (v : Value) : Except Cause Unit := checkIn room v

end SoapStubs.Json
