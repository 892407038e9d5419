import SoapStubs.Failure.Cause
import SoapStubs.Text.Casing

/-!
# Looking into values

Reading parts of a value whose shape is not known beforehand.

* `Value.get` is the value at a key of a mapping, or a default;
* `Value.need` is the value at a key that has to be there;
* `Value.elements` are the items of a list or a set, the characters of a text, the keys of a
  mapping;
* `Value.capitalized` is a text with its first character in upper case.
-/

namespace SoapStubs.Value

/-- The cause for a value without a member. -/
def lacks (v : Value) (member : String) : Cause :=
  .noMember ("'" ++ v.fullTypeName ++ "' object has no attribute '" ++ member ++ "'")

/-- The cause for a value that is no text and is to be cut at a point. -/
def uncut : Value → Cause
  | .bytes _ => .wrongType "a bytes-like object is required, not 'str'"
  | v => v.lacks "rpartition"

/-- The value at a key of a mapping, or the default. -/
def get (v : Value) (key : String) (default : Value := .null) : Except Cause Value :=
  match v with
  | .map _ => .ok ((v.field? key).getD default)
  | _ => .error (v.lacks "get")

def need (v : Value) (key : String) : Except Cause Value :=
  match v with
  | .map _ =>
    match v.field? key with
    | some w => .ok w
    | none => .error (.missingKey (.text key))
  | .text _ => .error (.wrongType "string indices must be integers, not 'str'")
  | .list _ => .error (.wrongType "list indices must be integers or slices, not str")
  | .tuple _ => .error (.wrongType "tuple indices must be integers or slices, not str")
  | .bytes _ => .error (.wrongType "byte indices must be integers or slices, not str")
  | _ => .error (.wrongType ("'" ++ v.fullTypeName ++ "' object is not subscriptable"))

/-- The values that the value is made of. -/
def elements : Value → Except Cause (List Value)
  | .list items => .ok items
  | .tuple items => .ok items
  | .set items => .ok items
  | .bytes b => .ok (b.map fun n => .int n.toNat)
  | .text s => .ok (s.toList.map fun c => .text (String.singleton c))
  | .map entries => .ok (entries.map Prod.fst)
  | v => .error (.wrongType ("'" ++ v.fullTypeName ++ "' object is not iterable"))

/-- The value, if it can be a key. -/
def asKey (v : Value) : Except Cause Value :=
  if v.hashable then .ok v
  else .error (.wrongType ("unhashable type: '" ++ v.typeName ++ "'"))

/-- The byte of the same letter in upper case. -/
def upperByte (b : UInt8) : UInt8 := if 97 ≤ b ∧ b ≤ 122 then b - 32 else b

/-- A text with its first character in upper case. -/
def capitalized : Value → Except Cause String
  | .text s => .ok (Text.capitalize s)
  | .bytes b => .ok (quotedBytes ((b.take 1).map upperByte ++ b.drop 1))
  | .list items => .error ((Value.list items).lacks "upper")
  | .tuple items => .error ((Value.tuple items).lacks "upper")
  | .map _ => .error (.wrongType "unhashable type: 'slice'")
  | v => .error (.wrongType ("'" ++ v.fullTypeName ++ "' object is not subscriptable"))

end SoapStubs.Value
