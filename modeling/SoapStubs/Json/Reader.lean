import SoapStubs.Json.Nesting
import SoapStubs.Number.Digits
import SoapStubs.Ordered

/-!
# Reading JSON

A reader of JSON texts by recursive descent.  Each part of the grammar is a function from the
characters left to what it reads and the characters after it.

* `Json.string?` reads the rest of a string behind its opening quote; two escaped halves of a
  surrogate pair make one character;
* `Json.number` reads a number: an integer, or a floating-point number if it has a fraction or
  an exponent;
* `Json.value` reads a value, `Json.items` and `Json.members` the rest of a list and of a
  mapping, in which the last value of a name wins;
* `Json.read` reads a whole text.

Besides the grammar of the format the words `NaN`, `Infinity` and `-Infinity` are numbers.  A text
is read from left to right, so an integer with too many digits, or a bracket for which there is no
room, is met before what is wrong behind it.
-/

namespace SoapStubs.Json

open Number

/-- Is the character a blank of the format? -/
def isGap (c : Char) : Bool := c == ' ' || c == '\t' || c == '\n' || c == '\r'

/-- The characters behind the blanks. -/
def skip (cs : List Char) : List Char := cs.dropWhile isGap

/-! ### Strings -/

/-- The value of a hexadecimal digit. -/
def hexValue? (c : Char) : Option Nat :=
  if c.isDigit then some (c.toNat - 48)
  else if 'a' ≤ c ∧ c ≤ 'f' then some (c.toNat - 87)
  else if 'A' ≤ c ∧ c ≤ 'F' then some (c.toNat - 55)
  else none

/-- The value of four hexadecimal digits. -/
def hexUnit? (a b c d : Char) : Option Nat := do
  let a ← hexValue? a
  let b ← hexValue? b
  let c ← hexValue? c
  let d ← hexValue? d
  return 4096 * a + 256 * b + 16 * c + d

def escaped? (c : Char) : Option Char :=
  match c with
  | '"' => some '"'
  | '\\' => some '\\'
  | '/' => some '/'
  | 'b' => some '\x08'
  | 'f' => some '\x0c'
  | 'n' => some '\n'
  | 'r' => some '\r'
  | 't' => some '\t'
  | _ => none

/-- The code units up to the closing quote, and what follows it. -/
def units? : List Char → Option (List Nat × List Char)
  | [] => none
  | '"' :: rest => some ([], rest)
  | '\\' :: 'u' :: a :: b :: c :: d :: rest => do
    let unit ← hexUnit? a b c d
    let (units, rest) ← units? rest
    return (unit :: units, rest)
  | '\\' :: c :: rest => do
    let c ← escaped? c
    let (units, rest) ← units? rest
    return (c.toNat :: units, rest)
  | c :: rest =>
    if c.toNat < 0x20 ∨ c = '\\' then none
    else do
      let (units, rest) ← units? rest
      return (c.toNat :: units, rest)

/-- Is the unit the first half of a surrogate pair? -/
def isHigh (n : Nat) : Bool := 0xD800 ≤ n && n < 0xDC00

/-- Is the unit the second half of a surrogate pair? -/
def isLow (n : Nat) : Bool := 0xDC00 ≤ n && n < 0xE000

/-- The character of a unit that is no half of a pair; a half stands for U+FFFD. -/
def unitChar (n : Nat) : Char :=
  if isHigh n || isLow n then Char.ofNat 0xFFFD else Char.ofNat n

/-- The characters of code units. -/
def ofUnits : List Nat → List Char
  | [] => []
  | high :: low :: rest =>
    if isHigh high && isLow low then
      Char.ofNat (0x10000 + (high - 0xD800) * 0x400 + (low - 0xDC00)) :: ofUnits rest
    else unitChar high :: ofUnits (low :: rest)
  | [n] => [unitChar n]

/-- The string up to the closing quote, and what follows it. -/
def string? (cs : List Char) : Option (String × List Char) :=
  (units? cs).map fun (units, rest) => (String.ofList (ofUnits units), rest)

/-! ### Numbers -/

/-- The digits of the whole part: a zero alone, or digits that begin with another one. -/
def whole? (cs : List Char) : Option (List Char × List Char) :=
  match cs with
  | '0' :: rest => some (['0'], rest)
  | c :: _ => if c.isDigit then some (spanDigits cs) else none
  | [] => none

/-- The digits behind a point, if there are any. -/
def fraction (cs : List Char) : List Char × List Char :=
  match cs with
  | '.' :: rest =>
    match spanDigits rest with
    | ([], _) => ([], cs)
    | found => found
  | _ => ([], cs)

/-- The exponent behind its mark, if there is one. -/
def exponent (cs : List Char) : Option Int × List Char :=
  match cs with
  | [] => (none, cs)
  | c :: rest =>
    if c != 'e' && c != 'E' then (none, cs)
    else
      let (negative, digits) :=
        match rest with
        | '-' :: rest => (true, rest)
        | '+' :: rest => (false, rest)
        | _ => (false, rest)
      match spanDigits digits with
      | ([], _) => (none, cs)
      | (found, rest) =>
        let n : Int := digitsValue found
        (some (if negative then -n else n), rest)

/-- The objection to a text that is not well formed. -/
def malformed {α : Type} : Except Cause α := .error (.json "Expecting value")

/-- A number without its sign. -/
def magnitude (negative : Bool) (cs : List Char) : Except Cause (Value × List Char) :=
  match whole? cs with
  | none => malformed
  | some (whole, rest) => do
    let (fraction, rest) := fraction rest
    let (exponent, rest) := exponent rest
    if fraction.isEmpty && exponent.isNone then
      let n : Int := ← wholeNumber whole
      return (.int (if negative then -n else n), rest)
    else
      let power : Int := exponent.getD 0 - fraction.length
      return (.float (.ofDecimal negative (digitsValue (whole ++ fraction)) power), rest)

def number (cs : List Char) : Except Cause (Value × List Char) :=
  match cs with
  | '-' :: rest => magnitude true rest
  | _ => magnitude false cs

/-! ### Values -/

/-- The words of the format and the values they stand for. -/
def words : List (List Char × Value) :=
  [("null".toList, .null), ("true".toList, .bool true), ("false".toList, .bool false),
    ("NaN".toList, .float .nan), ("Infinity".toList, .float (.infinite false)),
    ("-Infinity".toList, .float (.infinite true))]

def word? (cs : List Char) : Option (Value × List Char) :=
  (words.find? fun w => w.1.isPrefixOf cs).map fun w => (w.2, cs.drop w.1.length)

mutual

def value : (fuel room : Nat) → List Char → Except Cause (Value × List Char)
  | 0, _, _ => malformed
  | fuel + 1, room, cs =>
    match cs with
    | '"' :: rest =>
      match string? rest with
      | some (s, rest) => .ok (.text s, rest)
      | none => malformed
    | '[' :: rest =>
      inside room " while decoding a JSON array from a unicode string" fun room =>
        match skip rest with
        | ']' :: rest => .ok (.list [], rest)
        | rest => (items fuel room rest).map fun (items, rest) => (.list items, rest)
    | '\x7b' :: rest =>
      inside room " while decoding a JSON object from a unicode string" fun room =>
        match skip rest with
        | '\x7d' :: rest => .ok (.map [], rest)
        | rest =>
          -- of members with one name the last counts, at the place of the first
          (members fuel room rest).map fun (members, rest) => (.map (Ordered.ofList members), rest)
    | _ =>
      match word? cs with
      | some found => .ok found
      | none => number cs

/-- The items of a list up to its closing bracket; there is at least one. -/
def items : (fuel room : Nat) → List Char → Except Cause (List Value × List Char)
  | 0, _, _ => malformed
  | fuel + 1, room, cs => do
    let (item, rest) ← value fuel room cs
    match skip rest with
    | ']' :: rest => return ([item], rest)
    | ',' :: rest =>
      let (more, rest) ← items fuel room (skip rest)
      return (item :: more, rest)
    | _ => malformed

/-- The members of a mapping up to its closing brace; there is at least one. -/
def members : (fuel room : Nat) → List Char → Except Cause (List (Value × Value) × List Char)
  | 0, _, _ => malformed
  | fuel + 1, room, cs => do
    match cs with
    | '"' :: rest =>
      match string? rest with
      | none => malformed
      | some (name, rest) =>
        match skip rest with
        | ':' :: rest =>
          let (v, rest) ← value fuel room (skip rest)
          match skip rest with
          | '\x7d' :: rest => return ([(.text name, v)], rest)
          | ',' :: rest =>
            let (more, rest) ← members fuel room (skip rest)
            return ((.text name, v) :: more, rest)
          | _ => malformed
        | _ => malformed
    | _ => malformed

end

/-- The value of a JSON text. -/
def read (s : String) (room : Nat := Json.room) : Except Cause Value := do
  let cs := s.toList
  let (v, rest) ← value (2 * cs.length + 2) room (skip cs)
  if (skip rest).isEmpty then return v else malformed

end SoapStubs.Json
