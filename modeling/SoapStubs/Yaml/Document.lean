import SoapStubs.Text.Base64
import SoapStubs.Text.Blank
import SoapStubs.Text.Digit
import SoapStubs.Text.Lower
import SoapStubs.Yaml.Node

/-!
# Values of YAML documents

* `Node.merged` puts the entries of merged mappings in front of a mapping's own; an objection to a
  mapping stays in its place;
* `scalarValue` is the value of a scalar of a type;
* `Node.value` is the value of a node;
* `Yaml.read` is the value of a text.

Of several objections to a document the one nearest to its root is reported, and of those the
first: `Built` keeps the depth of an objection.
-/

namespace SoapStubs.Yaml

/-! ### Merging -/

/-- The type of a node. -/
def Node.tag : Node → Tag
  | .scalar t _ => t
  | .sequence t _ => t
  | .mapping t _ => t
  | .again _ => .null
  | .loop isMapping => if isMapping then .map else .seq
  | .broken _ => .map

/-- The node with another type. -/
def Node.retag (t : Tag) : Node → Node
  | .scalar _ text => .scalar t text
  | .sequence _ items => .sequence t items
  | .mapping _ entries => .mapping t entries
  | n => n

/-- The entries of a mapping that is to be merged. -/
def Node.entries? : Node → Except Cause (Option (List (Node × Node)))
  | .mapping _ entries => .ok (some entries)
  | .loop true => .ok (some [])
  | .broken e => .error e
  | _ => .ok none

/-- The entries that the value of a merge key brings in.  Of several mappings the first counts
most, so it comes last. -/
def Node.brought (n : Node) : Except Cause (List (Node × Node)) := do
  match ← n.entries?, n with
  | some entries, _ => return entries
  | none, .sequence _ items =>
    let each ← items.mapM fun item => do
      match ← item.entries? with
      | some entries => .ok entries
      | none => malformed "expected a mapping for merging"
    return each.reverse.flatten
  | none, _ => malformed "expected a mapping or list of mappings for merging"

/-- Entries split into those that merge keys bring in and the others. -/
def mergeEntries : List (Node × Node) → Except Cause (List (Node × Node) × List (Node × Node))
  | [] => .ok ([], [])
  | (k, v) :: rest => do
    if k.tag = .merge then
      let brought ← v.brought
      let (more, own) ← mergeEntries rest
      return (brought ++ more, own)
    else
      let (brought, own) ← mergeEntries rest
      return (brought, (if k.tag = .value then k.retag .str else k, v) :: own)

def Tag.isMapping (t : Tag) : Bool := t == .map || t == .set

mutual

/-- The node with the entries of merged mappings in front of a mapping's own, all the way down.
Mappings that stand for scalars or pairs keep their entries. -/
def Node.merged : Node → Node
  | .scalar tag text => .scalar tag text
  | .sequence tag items =>
    .sequence tag (if tag = .pairs then mergedPairs items else mergedItems items)
  | .mapping tag entries =>
    if tag.isMapping then
      match mergeEntries (mergedEntries entries) with
      | .ok (brought, own) => .mapping tag (brought ++ own)
      | .error e => .broken e
    else .mapping tag entries
  | .again name => .again name
  | .loop isMapping => .loop isMapping
  | .broken cause => .broken cause

/-- The nodes with merged mappings. -/
def mergedItems : List Node → List Node
  | [] => []
  | n :: rest => n.merged :: mergedItems rest

/-- The mappings that stand for pairs, with merged mappings inside. -/
def mergedPairs : List Node → List Node
  | [] => []
  | .mapping tag entries :: rest => .mapping tag (mergedEntries entries) :: mergedPairs rest
  | n :: rest => n :: mergedPairs rest

/-- The entries with merged mappings inside. -/
def mergedEntries : List (Node × Node) → List (Node × Node)
  | [] => []
  | (k, v) :: rest => (k.merged, v.merged) :: mergedEntries rest

end

/-! ### Numbers -/

/-- A sign in front of a text, and the rest. -/
def cutSign : List Char → Bool × List Char
  | '-' :: cs => (true, cs)
  | '+' :: cs => (false, cs)
  | cs => (false, cs)

def isDigitIn (base : Nat) (c : Char) : Bool := (Json.hexValue? c).any (· < base)

/-- The number that digits of a base write. -/
def digitsIn (base : Nat) (cs : List Char) : Nat :=
  cs.foldl (fun n c => base * n + (Json.hexValue? c).getD 0) 0

/-- The letter behind a zero that announces a base. -/
def baseLetter? (base : Nat) : Option Char :=
  match base with
  | 2 => some 'b'
  | 8 => some 'o'
  | 16 => some 'x'
  | _ => none

/-- The characters behind the announcement of a base, if it is there. -/
def dropBase (base : Nat) : List Char → List Char
  | '0' :: c :: cs => if some c.toLower = baseLetter? base then cs else '0' :: c :: cs
  | cs => cs

/-- The whole number that a text writes in a base, between blanks and after a sign.  Digits of all
scripts count. -/
def intIn (base : Nat) (cs : List Char) : Except Cause Int :=
  let (negative, rest) := cutSign ((Text.trimBy Number.isMargin cs).map Text.asciiDigit)
  let (digits, after) := (dropBase base rest).span (isDigitIn base)
  if base = 10 && Number.mostDigits < digits.length then
    .error (Number.tooManyDigits digits.length)
  else if digits.isEmpty || !after.isEmpty then
    .error (.invalid ("invalid literal for int() with base " ++ toString base ++ ": " ++
      Text.quote (String.ofList cs)))
  else
    let n : Int := digitsIn base digits
    .ok (if negative then -n else n)

/-- What is said of a text without a first character. -/
def noCharacter : Cause := .outOfRange "string index out of range"

/-- The sum of parts in base 60. -/
def inSixties (parts : List Int) : Int := parts.foldl (fun n part => 60 * n + part) 0

/-- The whole number of a scalar. -/
def intValue (text : String) : Except Cause Int :=
  let cs := text.toList.filter (· != '_')
  match cs with
  | [] => .error noCharacter
  | _ => do
    let (negative, cs) := cutSign cs
    let n ← match cs with
      | ['0'] => .ok 0
      | '0' :: 'b' :: digits => intIn 2 digits
      | '0' :: 'x' :: digits => intIn 16 digits
      | '0' :: _ => intIn 8 cs
      | [] => .error noCharacter
      | _ =>
        if cs.contains ':' then ((Text.pieces ':' cs).mapM (intIn 10)).map inSixties
        else intIn 10 cs
    return if negative then -n else n

/-- The floating-point number that a text writes, between blanks.  Digits of all scripts count. -/
def decimal? (cs : List Char) : Option Binary64 :=
  let (negative, cs) := cutSign ((Text.trimBy Number.isMargin cs).map Text.asciiDigit)
  let word := Text.lowerAscii (String.ofList cs)
  if word == "inf" || word == "infinity" then some (.infinite negative)
  else if word == "nan" then some .nan
  else
    let (whole, rest) := Number.spanDigits cs
    let (fraction, rest) := match rest with
      | '.' :: rest => Number.spanDigits rest
      | _ => ([], rest)
    let (exponent, rest) := Json.exponent rest
    if (whole.isEmpty && fraction.isEmpty) || !rest.isEmpty then none
    else
      some (.ofDecimal negative (Number.digitsValue (whole ++ fraction))
        (exponent.getD 0 - fraction.length))

/-- The floating-point number that a text writes, or an objection. -/
def decimal (cs : List Char) : Except Cause Binary64 :=
  match decimal? cs with
  | some x => .ok x
  | none =>
    .error (.invalid ("could not convert string to float: " ++ Text.quote (String.ofList cs)))

/-- The floating-point number of parts in base 60, the last one first. -/
def sumInSixties : (base : Nat) → List Binary64 → Binary64 → Binary64
  | _, [], sum => sum
  | base, part :: rest, sum =>
    sumInSixties (base * 60) rest (sum.plus (part.times (.ofInt base)))

/-- The floating-point number of a scalar. -/
def floatValue (text : String) : Except Cause Binary64 :=
  let cs := (Text.lower text).toList.filter (· != '_')
  match cs with
  | [] => .error noCharacter
  | _ => do
    let (negative, cs) := cutSign cs
    let x ←
      if cs == ".inf".toList then .ok (.infinite false)
      else if cs == ".nan".toList then .ok .nan
      else if cs.contains ':' then do
        let parts ← (Text.pieces ':' cs).mapM decimal
        .ok (sumInSixties 1 parts.reverse (.zero false))
      else decimal cs
    return if negative then x.negate else x

/-! ### Dates and moments -/

/-- The microseconds of the digits of a fraction: six digits count. -/
def microseconds (fraction : List Char) : Nat :=
  Number.digitsValue ((fraction ++ List.replicate 6 '0').take 6)

/-- A value unless something is wrong with it. -/
def sound (problem : Option String) (v : Value) : Except Cause Value :=
  match problem with
  | none => .ok v
  | some p => .error (.invalid p)

/-- What is wrong with a distance from universal time of a day or more. -/
def offsetProblem? (minutes : Int) : Option String :=
  if minutes.natAbs < 24 * 60 then none
  else
    some ("offset must be a timedelta strictly between -timedelta(hours=24) and " ++
      "timedelta(hours=24).")

/-- The date or moment of written parts. -/
def TimeParts.value (t : TimeParts) : Except Cause Value :=
  let number := Number.digitsValue
  let date : Date := ⟨number t.year, number t.month, number t.day⟩
  match t.time with
  | none => sound date.problem? (.date date)
  | some (hour, minute, second, fraction) =>
    let offset : Option Int := t.zone.map fun (negative, hours, minutes) =>
      let n : Int := 60 * number hours + number minutes
      if negative then -n else n
    let moment : Moment :=
      ⟨date, number hour, number minute, number second, microseconds fraction, offset⟩
    sound ((offset.bind offsetProblem?).or moment.problem?) (.moment moment)

/-! ### Values -/

/-- The truth value of a scalar. -/
def boolValue (text : String) : Except Cause Bool :=
  let word := Text.lower text
  if ["yes", "true", "on"].contains word then .ok true
  else if ["no", "false", "off"].contains word then .ok false
  else .error (.missingKey (.text word))

/-- The bytes of a scalar. -/
def bytesValue (text : String) : Except Cause (List UInt8) :=
  let cs := text.toList
  if cs.any fun c => 0x80 ≤ c.toNat then malformed "failed to convert base64 data into ascii"
  else
    match Base64.decode? cs with
    | some b => .ok b
    | none => malformed "failed to decode base64 data"

/-- A node of a type without a meaning here. -/
def unknownTag {α : Type} : Except Cause α := malformed "could not determine a constructor"

/-- The value of a scalar of a type. -/
def scalarValue (tag : Tag) (text : String) : Except Cause Value :=
  match tag with
  | .null => .ok .null
  | .bool => (boolValue text).map .bool
  | .int => (intValue text).map .int
  | .float => (floatValue text).map .float
  | .timestamp =>
    match TimeParts.read? text.toList with
    | some t => t.value
    | none => .error (.noMember "'NoneType' object has no attribute 'groupdict'")
  | .str => .ok (.text text)
  | .binary => (bytesValue text).map .bytes
  | .seq | .map | .set | .pairs => malformed "expected a collection"
  | .merge | .value | .other _ => unknownTag

/-- A value or an objection with its distance from the root. -/
abbrev Built (α : Type) := Except (Nat × Cause) α

/-- A result at a distance from the root. -/
def Built.at {α : Type} (depth : Nat) (r : Except Cause α) : Built α := r.mapError (depth, ·)

/-- Both values, or the objection that is nearer to the root. -/
def Built.both {α β : Type} (x : Built α) (y : Built β) : Built (α × β) :=
  match x, y with
  | .ok a, .ok b => .ok (a, b)
  | .error e, .ok _ => .error e
  | .ok _, .error e => .error e
  | .error e, .error f => .error (if f.1 < e.1 then f else e)

mutual

/-- The text of a node that stands for a scalar; a mapping has the one of its equals sign. -/
def Node.ownText? : Node → Option String
  | .scalar _ text => some text
  | .mapping _ entries => signText? entries
  | _ => none

/-- The text at the first equals sign. -/
def signText? : List (Node × Node) → Option String
  | [] => none
  | (k, v) :: rest => if k.tag = .value then v.ownText? else signText? rest

end

/-- The value of a mapping that stands for a scalar of a type. -/
def standInValue (tag : Tag) (text : Option String) : Except Cause Value :=
  match tag, text with
  | _, none => malformed "expected a scalar node"
  | .timestamp, some _ => .error (.wrongType "expected string or bytes-like object, got 'list'")
  | _, some text => scalarValue tag text

mutual

/-- The value of a node that is `depth` collections away from the root. -/
def Node.build (depth : Nat) : Node → Built Value
  | .scalar tag text =>
    let isDeeper := tag == .seq || tag.isMapping || tag == .pairs
    Built.at (if isDeeper then depth + 1 else depth) (scalarValue tag text)
  | .sequence tag items =>
    match tag with
    | .seq => (buildItems (depth + 1) items).map .list
    | .pairs => (buildPairs (depth + 1) items).map .list
    | .map | .set => Built.at (depth + 1) (malformed "expected a mapping node")
    | .merge | .value | .other _ => Built.at depth unknownTag
    | _ => Built.at depth (malformed "expected a scalar node")
  | .mapping tag entries =>
    match tag with
    | .map => (buildEntries (depth + 1) entries).map fun es => .map (Ordered.ofList es)
    | .set => (buildEntries (depth + 1) entries).map fun es => .set (Ordered.ofList es).keys
    | .seq | .pairs => Built.at (depth + 1) (malformed "expected a sequence node")
    | .merge | .value | .other _ => Built.at depth unknownTag
    | _ => Built.at depth (standInValue tag (signText? entries))
  | .again _ => Built.at depth (malformed "found undefined alias")
  | .loop isMapping => .ok (.loop isMapping)
  | .broken e => Built.at (depth + 1) (.error e)

def buildItems (depth : Nat) : List Node → Built (List Value)
  | [] => .ok []
  | n :: rest =>
    ((n.build depth).both (buildItems depth rest)).map fun (v, vs) => v :: vs

/-- The values of entries.  A key has to be one that values can be looked up by. -/
def buildEntries (depth : Nat) : List (Node × Node) → Built (List (Value × Value))
  | [] => .ok []
  | (k, v) :: rest =>
    let key : Built Value := match k.build depth with
      | .ok x => if x.hashable then .ok x else Built.at depth (malformed "found unhashable key")
      | .error (n, e) => .error (min n depth, if depth < n then .yaml "unhashable" else e)
    ((key.both (v.build depth)).both (buildEntries depth rest)).map fun (e, es) => e :: es

/-- The pairs of nodes that are mappings with one entry. -/
def buildPairs (depth : Nat) : List Node → Built (List Value)
  | [] => .ok []
  | .mapping _ [(k, v)] :: rest =>
    (((k.build depth).both (v.build depth)).both (buildPairs depth rest)).map
      fun ((x, y), vs) => .tuple [x, y] :: vs
  | _ :: _ => Built.at depth (malformed "expected a mapping of length 1")

end

def Node.value (n : Node) : Except Cause Value := (n.merged.build 0).mapError Prod.snd

/-- The value of a text; a text without a document is nothing. -/
def read (text : String) : Except Cause Value := do
  match ← Node.ofTokens (scan text) with
  | none => return .null
  | some n => n.value

end SoapStubs.Yaml
