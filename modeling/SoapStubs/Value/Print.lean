import SoapStubs.Number.Shortest
import SoapStubs.Text.Quoted
import SoapStubs.Text.Split
import SoapStubs.Value

/-!
# Text of values

Two ways to write a value.  `Value.quoted` shows what kind of value it is: texts are quoted,
lists stand in square brackets, mappings in braces.  `Value.plain` is the value as running text:
a text is itself, a date is written out, anything else is as in `quoted`.
-/

namespace SoapStubs.Value

/-- A byte of a string in quotes. -/
def quotedByte (mark : Char) (b : UInt8) : List Char :=
  let c := Char.ofNat b.toNat
  if c = mark ∨ c = '\\' then ['\\', c]
  else if c = '\t' then ['\\', 't']
  else if c = '\n' then ['\\', 'n']
  else if c = '\r' then ['\\', 'r']
  else if 0x20 ≤ b ∧ b < 0x7F then [c]
  else '\\' :: 'x' :: Text.hexDigits 2 b.toNat

/-- A string of bytes in quoted form. -/
def quotedBytes (b : List UInt8) : String :=
  let mark := if b.contains 39 && !b.contains 34 then '"' else '\''
  String.ofList ('b' :: mark :: b.flatMap (quotedByte mark) ++ [mark])

mutual

/-- The value in quoted form. -/
def quoted : Value → String
  | .null => "None"
  | .bool b => if b then "True" else "False"
  | .int n => toString n
  | .float x => x.text
  | .text s => Text.quote s
  | .bytes b => quotedBytes b
  | .date d => d.call
  | .moment t => t.call
  | .list items => "[" ++ Text.join ", " (quotedItems items) ++ "]"
  | .tuple items =>
    "(" ++ Text.join ", " (quotedItems items) ++ (if items.length == 1 then ",)" else ")")
  | .map entries => "\x7b" ++ Text.join ", " (quotedEntries entries) ++ "\x7d"
  | .set items =>
    if items.isEmpty then "set()" else "\x7b" ++ Text.join ", " (quotedItems items) ++ "\x7d"
  | .loop isMapping => if isMapping then "\x7b...\x7d" else "[...]"
termination_by structural v => v

/-- The values in quoted form. -/
def quotedItems : List Value → List String
  | [] => []
  | v :: vs => quoted v :: quotedItems vs
termination_by structural vs => vs

/-- The entries of a mapping in quoted form. -/
def quotedEntries : List (Value × Value) → List String
  | [] => []
  | (k, v) :: rest => (quoted k ++ ": " ++ quoted v) :: quotedEntries rest
termination_by structural es => es

end

/-- The value as running text. -/
def plain : Value → String
  | .text s => s
  | .date d => d.text
  | .moment t => t.text
  | v => v.quoted

end SoapStubs.Value
