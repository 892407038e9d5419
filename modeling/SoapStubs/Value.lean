import SoapStubs.Calendar
import SoapStubs.Number.Binary64

/-!
# Values

The values that documents, bindings and descriptors are made of.

* `Value` is the type; mappings keep the order of their entries, and any value may be a key;
* `Value.equals` is equality of data: numbers are equal across integers, booleans and
  floating-point numbers, mappings and sets are equal in any order, a list is never equal to a
  tuple;
* `truthy` says which values count as true where a default may stand in for a value;
* `hashable` says which values can be keys.
-/

namespace SoapStubs

/-- A value of a document. -/
inductive Value where
  | null
  | bool (b : Bool)
  | int (n : Int)
  /-- A floating-point number. -/
  | float (x : Binary64)
  | text (s : String)
  | bytes (b : List UInt8)
  | date (d : Date)
  | moment (t : Moment)
  | list (items : List Value)
  /-- A list that cannot change. -/
  | tuple (items : List Value)
  | map (entries : List (Value × Value))
  /-- A set; no two items are equal. -/
  | set (items : List Value)
  /-- A mapping or a list inside itself, where it is not written out any more. -/
  | loop (isMapping : Bool)
  deriving Repr, Inhabited

namespace Value

/-- The integer that a number or truth value is equal to. -/
def toInt? : Value → Option Int
  | .int n => some n
  | .bool b => some (if b then 1 else 0)
  | .float x => x.toInt?
  | _ => none

mutual

/-- Equality of data. -/
def equals : Value → Value → Bool
  | .null, .null => true
  | .text s, .text t => s == t
  | .date d, .date e => d == e
  | .moment t, .moment u => t.same u
  | .bytes b, .bytes c => b == c
  | .list xs, .list ys => equalsList xs ys
  | .tuple xs, .tuple ys => equalsList xs ys
  | .map xs, .map ys => xs.length == ys.length && equalsEntries xs ys
  | .set xs, .set ys => xs.length == ys.length && within xs ys
  | .loop m, .loop n => m == n
  | .float x, .float y => x.equals y
  -- numbers and truth values are equal if they stand for the same integer
  | .int n, y => toInt? y == some n
  | .bool b, y => toInt? y == some (if b then 1 else 0)
  | .float x, .int n => x.toInt? == some n
  | .float x, .bool b => x.toInt? == some (if b then 1 else 0)
  | _, _ => false
termination_by structural x => x

/-- Equality of lists, item by item. -/
def equalsList : List Value → List Value → Bool
  | [], [] => true
  | x :: xs, y :: ys => equals x y && equalsList xs ys
  | _, _ => false
termination_by structural xs => xs

/-- Is each value equal to one of the others? -/
def within : List Value → List Value → Bool
  | [], _ => true
  | x :: xs, ys => ys.any (fun y => equals x y) && within xs ys
termination_by structural xs => xs

/-- Has the second mapping an equal entry for each entry of the first? -/
def equalsEntries : List (Value × Value) → List (Value × Value) → Bool
  | [], _ => true
  | (k, v) :: rest, ys => ys.any (fun y => equals k y.1 && equals v y.2) && equalsEntries rest ys
termination_by structural xs => xs

end

instance : BEq Value := ⟨equals⟩

/-- Does the value count as true? -/
def truthy : Value → Bool
  | .null => false
  | .bool b => b
  | .int n => n != 0
  | .float x => !x.isZero
  | .text s => s != ""
  | .bytes b => !b.isEmpty
  | .date _ => true
  | .moment _ => true
  | .list items => !items.isEmpty
  | .tuple items => !items.isEmpty
  | .map entries => !entries.isEmpty
  | .set items => !items.isEmpty
  | .loop _ => true

/-- The value if it counts as true, else the other one. -/
def orElse (v w : Value) : Value := if v.truthy then v else w

mutual

/-- Can the value be a key of a mapping? -/
def hashable : Value → Bool
  | .list _ => false
  | .map _ => false
  | .set _ => false
  | .loop _ => false
  | .tuple items => hashableAll items
  | _ => true
termination_by structural v => v

/-- Can all the values be keys? -/
def hashableAll : List Value → Bool
  | [] => true
  | v :: vs => hashable v && hashableAll vs
termination_by structural vs => vs

end

def typeName : Value → String
  | .null => "NoneType"
  | .bool _ => "bool"
  | .int _ => "int"
  | .float _ => "float"
  | .text _ => "str"
  | .bytes _ => "bytes"
  | .date _ => "date"
  | .moment _ => "datetime"
  | .list _ => "list"
  | .tuple _ => "tuple"
  | .map _ => "dict"
  | .set _ => "set"
  | .loop isMapping => if isMapping then "dict" else "list"

/-- The name of the value's type with the name of the calendar's types' home. -/
def fullTypeName (v : Value) : String :=
  match v with
  | .date _ | .moment _ => "datetime." ++ v.typeName
  | _ => v.typeName

def ofOption (s : Option String) : Value := s.elim .null .text

def texts (items : List String) : Value := .list (items.map .text)

/-- A mapping with texts as keys. -/
def record (fields : List (String × Value)) : Value :=
  .map (fields.map fun (k, v) => (.text k, v))

def text? : Value → Option String
  | .text s => some s
  | _ => none

/-- The value at a text key, if the value is a mapping that has it. -/
def field? (v : Value) (key : String) : Option Value :=
  match v with
  | .map entries => (entries.find? (·.1 == .text key)).map Prod.snd
  | _ => none

end Value

end SoapStubs
