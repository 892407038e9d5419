import SoapStubs.Text.Split

/-!
# Types of YAML nodes

* `Tag` is the type of a node, `Tag.ofName` the type with a full name;
* `Tag.ofPlain` is the type of a plain scalar, which its text decides.
-/

namespace SoapStubs.Yaml

/-- The type of a node. -/
inductive Tag where
  | null
  | bool
  | int
  /-- A floating-point number. -/
  | float
  | timestamp
  | str
  | binary
  | seq
  | map
  /-- A mapping without values. -/
  | set
  | pairs
  /-- The key whose value is merged into a mapping. -/
  | merge
  /-- The key of a mapping's own value. -/
  | value
  /-- A type without a meaning here. -/
  | other (name : String)
  deriving DecidableEq, Repr, Inhabited

namespace Tag

/-- What the names of the types of the format start with. -/
def standard : String := "tag:yaml.org,2002:"

/-- The types of the format by the rest of their names. -/
def named : List (String × Tag) :=
  [("null", .null), ("bool", .bool), ("int", .int), ("float", .float),
    ("timestamp", .timestamp), ("str", .str), ("binary", .binary), ("seq", .seq), ("map", .map),
    ("set", .set), ("pairs", .pairs), ("omap", .pairs), ("merge", .merge), ("value", .value)]

/-- The type with a full name. -/
def ofName (name : String) : Tag :=
  ((named.find? fun (rest, _) => name == standard ++ rest).map Prod.snd).getD (.other name)

/-! ### Forms of plain scalars -/

/-- Is the character a digit or an underscore? -/
def isDigitOrGap (c : Char) : Bool := c.isDigit || c == '_'

/-- The characters without a sign in front. -/
def unsigned : List Char → List Char
  | '+' :: cs => cs
  | '-' :: cs => cs
  | cs => cs

/-- A digit followed by digits and underscores. -/
def isGrouped : List Char → Bool
  | c :: cs => c.isDigit && cs.all isDigitOrGap
  | [] => false

/-- One digit, or two of which the first is at most five: a part of a number in base 60. -/
def isSixtieth : List Char → Bool
  | [c] => c.isDigit
  | [c, d] => c.isDigit && c ≤ '5' && d.isDigit
  | _ => false

/-- Is the text a whole number? -/
def isInt (cs : List Char) : Bool :=
  match unsigned cs with
  | ['0'] => true
  | '0' :: 'b' :: c :: rest => (c :: rest).all fun c => c == '0' || c == '1' || c == '_'
  | '0' :: 'x' :: c :: rest =>
    (c :: rest).all fun c =>
      isDigitOrGap c || ('a' ≤ c && c ≤ 'f') || ('A' ≤ c && c ≤ 'F')
  | '0' :: rest => rest.all fun c => ('0' ≤ c && c ≤ '7') || c == '_'
  | cs =>
    match Text.pieces ':' cs with
    | first :: rest => isGrouped first && rest.all isSixtieth
    | [] => false

/-- An exponent with its sign, or nothing. -/
def isExponent : List Char → Bool
  | [] => true
  | e :: sign :: c :: cs =>
    (e == 'e' || e == 'E') && (sign == '+' || sign == '-') && (c :: cs).all Char.isDigit
  | _ => false

/-- Digits and underscores with an exponent after them. -/
def isFraction (cs : List Char) : Bool := isExponent (cs.dropWhile isDigitOrGap)

/-- Is the text a number with a point, in base 10 or 60? -/
def isPointed (cs : List Char) : Bool :=
  match cs.span (· != '.') with
  | (whole, '.' :: rest) =>
    match Text.pieces ':' whole with
    | [single] => isGrouped single && isFraction rest
    | first :: more => isGrouped first && more.all isSixtieth && rest.all isDigitOrGap
    | [] => false
  | _ => false

/-- Is the text a floating-point number? -/
def isFloat (cs : List Char) : Bool :=
  isPointed (unsigned cs) ||
    (match cs with
      | '.' :: c :: rest => c.isDigit && isFraction rest
      | _ => false) ||
    [".inf", ".Inf", ".INF"].contains (String.ofList (unsigned cs)) ||
    [".nan", ".NaN", ".NAN"].contains (String.ofList cs)

/-- The words for truth values. -/
def boolWords : List String :=
  ["yes", "Yes", "YES", "no", "No", "NO", "true", "True", "TRUE", "false", "False", "FALSE",
    "on", "On", "ON", "off", "Off", "OFF"]

/-- The words for nothing. -/
def nullWords : List String := ["", "~", "null", "Null", "NULL"]

end Tag

/-- The parts of a date or a moment as they are written. -/
structure TimeParts where
  year : List Char
  month : List Char
  day : List Char
  /-- Hour, minute, second and the digits of the fraction, if there is a time of day. -/
  time : Option (List Char × List Char × List Char × List Char) := none
  /-- The distance from universal time: a sign, hours and minutes. -/
  zone : Option (Bool × List Char × List Char) := none
  deriving Repr, Inhabited

/-- The text without a line end after its last character. -/
def dropFinalBreak (cs : List Char) : List Char :=
  if cs.getLast? = some '\n' && 1 < cs.length then cs.dropLast else cs

namespace TimeParts

/-- Between `least` and `most` digits in front, and what follows them. -/
def digits? (least most : Nat) (cs : List Char) : Option (List Char × List Char) :=
  let found := (cs.take most).takeWhile Char.isDigit
  if least ≤ found.length then some (found, cs.drop found.length) else none

/-- What follows a character. -/
def after? (c : Char) : List Char → Option (List Char)
  | d :: rest => if c = d then some rest else none
  | [] => none

/-- Is the character a blank between the parts? -/
def isGap (c : Char) : Bool := c == ' ' || c == '\t'

/-- What follows the sign between day and time. -/
def afterDay? : List Char → Option (List Char)
  | c :: rest =>
    if c == 'T' || c == 't' then some rest
    else if isGap c then some (rest.dropWhile isGap)
    else none
  | [] => none

/-- The distance from universal time at the end. -/
def zone? (cs : List Char) : Option (Option (Bool × List Char × List Char)) :=
  match cs.dropWhile isGap with
  | [] => if cs.isEmpty then some none else none
  | ['Z'] => some (some (false, ['0'], ['0']))
  | sign :: rest =>
    if sign == '+' || sign == '-' then do
      let (hours, rest) ← digits? 1 2 rest
      match rest with
      | [] => return some (sign == '-', hours, ['0'])
      | ':' :: rest =>
        let (minutes, rest) ← digits? 2 2 rest
        if rest.isEmpty then return some (sign == '-', hours, minutes) else none
      | _ => none
    else none

/-- The parts of a text; a line end after it does not count. -/
def read? (cs : List Char) : Option TimeParts := do
  let (year, rest) ← digits? 4 4 (dropFinalBreak cs)
  let (month, rest) ← digits? 1 2 (← after? '-' rest)
  let (day, rest) ← digits? 1 2 (← after? '-' rest)
  if rest.isEmpty then return { year, month, day }
  else
    let (hour, rest) ← digits? 1 2 (← afterDay? rest)
    let (minute, rest) ← digits? 2 2 (← after? ':' rest)
    let (second, rest) ← digits? 2 2 (← after? ':' rest)
    let (fraction, rest) := match rest with
      | '.' :: rest => (rest.takeWhile Char.isDigit, rest.dropWhile Char.isDigit)
      | _ => ([], rest)
    let zone ← zone? rest
    return { year, month, day, time := some (hour, minute, second, fraction), zone }

end TimeParts

namespace Tag

/-- Is the text a date or a moment?  Month and day of a date alone have two digits. -/
def isTimestamp (cs : List Char) : Bool :=
  match TimeParts.read? cs with
  | none => false
  | some t => t.time.isSome || (t.month.length == 2 && t.day.length == 2)

/-- The type of a plain scalar.  A line end after the text does not count; only a quoted text can
have one. -/
def ofPlain (whole : String) : Tag :=
  let cs := dropFinalBreak whole.toList
  let text := String.ofList cs
  if boolWords.contains text then .bool
  else if isFloat cs then .float
  else if isInt cs then .int
  else if text == "<<" then .merge
  else if nullWords.contains text then .null
  else if isTimestamp cs then .timestamp
  else if text == "=" then .value
  else .str

end Tag

end SoapStubs.Yaml
