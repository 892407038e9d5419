import SoapStubs.Json.Reader
import SoapStubs.Yaml.Cursor

/-!
# Scalars of YAML

The texts of scalars in their five styles.

* `plain` reads a scalar without quotes;
* `quoted` reads one in single or double quotes;
* `block` reads a literal or folded one, whose lines are indented.

Each gives the text and the place after it.  The loops take the number of characters left as
their bound, since every turn reads at least one.
-/

namespace SoapStubs.Yaml

/-! ### Plain scalars -/

/-- Is the character part of the punctuation of flow collections? -/
def isFlowMark (c : Char) : Bool :=
  c == ',' || c == '[' || c == ']' || c == '\x7b' || c == '\x7d'

/-- The characters of a plain scalar up to a blank or its end. -/
def plainChunk (flow : Bool) : List Char → List Char
  | [] => []
  | c :: rest =>
    let next := rest.headD ending
    if isBlankOrEnd c || (c == ':' && (isBlankOrEnd next || (flow && isFlowMark next))) ||
        (flow && (isFlowMark c || c == '?')) then []
    else c :: plainChunk flow rest

/-- What stands between two chunks of a plain scalar. -/
structure Gap where
  /-- The blanks as they are kept; none if the scalar ends. -/
  kept : Option (List Char)
  /-- Did a line end? -/
  crossed : Bool
  /-- The place after them. -/
  cursor : Cursor

/-- The further line ends, with the blanks before them; nothing if a document starts or ends. -/
def plainBreaks : (fuel : Nat) → Cursor → Option (List Char) × Cursor
  | 0, c => (some [], c)
  | fuel + 1, c =>
    let c := c.skipSpaces
    if isBreak c.peek then
      let (ended, c) := c.lineBreak
      if c.isDocumentMarker then (none, c)
      else
        let (more, c) := plainBreaks fuel c
        (more.map (ended ++ ·), c)
    else (some [], c)

/-- One line end is folded into a blank; of several, the first is dropped. -/
def folded (first more : List Char) : List Char :=
  if first != ['\n'] then first ++ more
  else if more.isEmpty then [' ']
  else more

/-- What stands between two chunks of a plain scalar. -/
def plainGap (c : Cursor) : Gap :=
  let (spaces, c) := c.span (· == ' ')
  if isBreak c.peek then
    let (first, c) := c.lineBreak
    if c.isDocumentMarker then ⟨none, true, c⟩
    else
      let (more, c) := plainBreaks (c.rest.length + 1) c
      ⟨more.map (folded first), true, c⟩
  else ⟨if spaces.isEmpty then none else some spaces, false, c⟩

/-- The rest of a plain scalar after the characters between two chunks, whether a line ended last,
and the place after it. -/
def plainRest (flow : Bool) (indent : Int) :
    (fuel : Nat) → (between : List Char) → (crossed : Bool) → Cursor → List Char × Bool × Cursor
  | 0, _, crossed, c => ([], crossed, c)
  | fuel + 1, between, crossed, c =>
    -- a hash begins a comment here, as there is a blank before it
    let chunk := if c.peek == '#' then [] else plainChunk flow c.rest
    if chunk.isEmpty then ([], crossed, c)
    else
      let gap := plainGap (c.advanceBy chunk.length)
      match gap.kept with
      | none => (between ++ chunk, gap.crossed, gap.cursor)
      | some kept =>
        if gap.cursor.peek == '#' || (!flow && (gap.cursor.column : Int) < indent) then
          (between ++ chunk, gap.crossed, gap.cursor)
        else
          let (text, crossed, c) := plainRest flow indent fuel kept gap.crossed gap.cursor
          (between ++ chunk ++ text, crossed, c)

/-- A plain scalar whose further lines are indented by at least `indent`, whether a line ended last,
and the place after it. -/
def plain (flow : Bool) (indent : Int) (c : Cursor) : List Char × Bool × Cursor :=
  plainRest flow indent (c.rest.length + 1) [] false c

/-! ### Quoted scalars -/

/-- The characters that escapes of one character stand for. -/
def escapes : List (Char × Char) :=
  [('0', '\x00'), ('a', '\x07'), ('b', '\x08'), ('t', '\t'), ('\t', '\t'), ('n', '\n'),
    ('v', '\x0b'), ('f', '\x0c'), ('r', '\r'), ('e', '\x1b'), (' ', ' '), ('"', '"'),
    ('\\', '\\'), ('/', '/'), ('N', '\x85'), ('_', '\xa0'), ('L', '\u2028'), ('P', '\u2029')]

/-- The number of hexadecimal digits behind an escape. -/
def escapeWidths : List (Char × Nat) := [('x', 2), ('u', 4), ('U', 8)]

/-- The number that hexadecimal digits write. -/
def hexNumber? (cs : List Char) : Option Nat :=
  cs.foldlM (fun n c => (Json.hexValue? c).map (16 * n + ·)) 0

/-- The line ends of a quoted scalar, with the blanks around them. -/
def quotedBreaks : (fuel : Nat) → Cursor → Except Cause (List Char × Cursor)
  | 0, c => .ok ([], c)
  | fuel + 1, c =>
    if c.isDocumentMarker then malformed "found unexpected document separator"
    else
      let c := c.skip fun ch => ch == ' ' || ch == '\t'
      if isBreak c.peek then do
        let (ended, c) := c.lineBreak
        let (more, c) ← quotedBreaks fuel c
        return (ended ++ more, c)
      else .ok ([], c)

/-- The escape behind a backslash and the place after it. -/
def escape (c : Cursor) : Except Cause (List Char × Cursor) :=
  let ch := c.peek
  match escapes.lookup ch, escapeWidths.lookup ch with
  | some d, _ => .ok ([d], c.advance)
  | none, some width =>
    let digits := (c.rest.drop 1).take width
    match if digits.length = width then hexNumber? digits else none with
    | none => malformed "expected escape sequence of hexadecimal numbers"
    | some code =>
      if Nat.pow 2 31 ≤ code then .error (.overflow "the code of a character is too large")
      else if 0x110000 ≤ code then .error (.invalid "chr() arg not in range(0x110000)")
      else .ok ([Json.unitChar code], c.advanceBy (width + 1))
  | none, none =>
    if isBreak ch then quotedBreaks (c.rest.length + 1) c.lineBreak.2
    else malformed "found unknown escape character"

/-- The characters of a quoted scalar up to a blank or its end. -/
def quotedChunk (double : Bool) : (fuel : Nat) → Cursor → Except Cause (List Char × Cursor)
  | 0, c => .ok ([], c)
  | fuel + 1, c => do
    let isSpecial (ch : Char) : Bool := isBlankOrEnd ch || ch == '\'' || ch == '"' || ch == '\\'
    let (start, c) := c.span fun ch => !isSpecial ch
    let ch := c.peek
    if !double && ch == '\'' && c.peek 1 == '\'' then
      let (more, c) ← quotedChunk double fuel (c.advanceBy 2)
      return (start ++ '\'' :: more, c)
    else if (double && ch == '\'') || (!double && (ch == '"' || ch == '\\')) then
      let (more, c) ← quotedChunk double fuel c.advance
      return (start ++ ch :: more, c)
    else if double && ch == '\\' then
      let (found, c) ← escape c.advance
      let (more, c) ← quotedChunk double fuel c
      return (start ++ found ++ more, c)
    else return (start, c)

/-- The blanks of a quoted scalar as they are kept. -/
def quotedGap (c : Cursor) : Except Cause (List Char × Cursor) := do
  let (blanks, c) := c.span fun ch => ch == ' ' || ch == '\t'
  if c.peek == ending then malformed "found unexpected end of stream"
  else if isBreak c.peek then
    let (first, c) := c.lineBreak
    let (more, c) ← quotedBreaks (c.rest.length + 1) c
    return (folded first more, c)
  else return (blanks, c)

/-- The rest of a quoted scalar and the place after its closing quote. -/
def quotedRest (quote : Char) : (fuel : Nat) → Cursor → Except Cause (List Char × Cursor)
  | 0, _ => malformed "found unexpected end of stream"
  | fuel + 1, c => do
    let (start, c) ← quotedChunk (quote == '"') (c.rest.length + 1) c
    if c.peek == quote then return (start, c.advance)
    else
      let (gap, c) ← quotedGap c
      let (more, c) ← quotedRest quote fuel c
      return (start ++ gap ++ more, c)

/-- A quoted scalar and the place after it. -/
def quoted (c : Cursor) : Except Cause (List Char × Cursor) :=
  quotedRest c.peek (c.rest.length + 1) c.advance

/-! ### Block scalars -/

/-- What becomes of the line ends after a block scalar. -/
inductive Chomping where
  | strip
  | clip
  | keep
  deriving DecidableEq, Repr, Inhabited

/-- The chomping that a character stands for. -/
def chomping? (c : Char) : Option Chomping :=
  if c == '+' then some .keep else if c == '-' then some .strip else none

/-- The digit of an indentation. -/
def increment? (c : Char) : Option Nat := if c.isDigit then some (c.toNat - '0'.toNat) else none

/-- The chomping and the indentation behind the sign of a block scalar, in either order. -/
def blockHeader (c : Cursor) : Except Cause (Chomping × Option Nat × Cursor) :=
  let found : Option Chomping × Option Nat × Cursor :=
    match chomping? c.peek with
    | some chomping =>
      let c := c.advance
      match increment? c.peek with
      | some n => (some chomping, some n, c.advance)
      | none => (some chomping, none, c)
    | none =>
      match increment? c.peek with
      | some n =>
        let c := c.advance
        match chomping? c.peek with
        | some chomping => (some chomping, some n, c.advance)
        | none => (none, some n, c)
      | none => (none, none, c)
  let (chomping, increment, c) := found
  if increment = some 0 then malformed "expected indentation indicator in the range 1-9"
  else if isSpaceOrEnd c.peek then .ok (chomping.getD .clip, increment, c)
  else malformed "expected chomping or indentation indicators"

/-- The place after at most so many blanks that the column is `indent`. -/
def indentTo (indent : Nat) (c : Cursor) : Cursor :=
  c.advanceBy (min (c.span (· == ' ')).1.length (indent - c.column))

/-- The line ends before the next line of a block scalar. -/
def blockBreaks (indent : Nat) : (fuel : Nat) → Cursor → List Char × Cursor
  | 0, c => ([], c)
  | fuel + 1, c =>
    let c := indentTo indent c
    if isBreak c.peek then
      let (ended, c) := c.lineBreak
      let (more, c) := blockBreaks indent fuel c
      (ended ++ more, c)
    else ([], c)

/-- The line ends before the first line of a block scalar, and the greatest column on the way. -/
def blockIndentation : (fuel : Nat) → (greatest : Nat) → Cursor → List Char × Nat × Cursor
  | 0, greatest, c => ([], greatest, c)
  | fuel + 1, greatest, c =>
    let c := c.skipSpaces
    let greatest := max greatest c.column
    if isBreak c.peek then
      let (ended, c) := c.lineBreak
      let (more, greatest, c) := blockIndentation fuel greatest c
      (ended ++ more, greatest, c)
    else ([], greatest, c)

/-- The lines of a block scalar with what stands between them, the end of the last line, the line
ends after it and the place after those. -/
def blockLines (isFolded : Bool) (indent : Nat) :
    (fuel : Nat) → (breaks : List Char) → (ended : List Char) → Cursor →
      List Char × List Char × List Char × Cursor
  | 0, breaks, ended, c => ([], ended, breaks, c)
  | fuel + 1, breaks, ended, c =>
    if c.column = indent && c.peek != ending then
      let isLoose := c.peek == ' ' || c.peek == '\t'
      let (line, c) := c.span fun ch => !isLineEnd ch
      let (ended, c) := c.lineBreak
      let (next, c) := blockBreaks indent (c.rest.length + 1) c
      if c.column = indent && c.peek != ending then
        -- a line end is folded only between two lines that do not begin with a blank
        let joint :=
          if isFolded && ended == ['\n'] && !isLoose && c.peek != ' ' && c.peek != '\t' then
            (if next.isEmpty then [' '] else [])
          else ended
        let (more, last, after, c) := blockLines isFolded indent fuel next ended c
        (breaks ++ line ++ joint ++ more, last, after, c)
      else (breaks ++ line, ended, next, c)
    else ([], ended, breaks, c)

/-- A block scalar inside an indentation, and the place after it. -/
def block (indent : Int) (c : Cursor) : Except Cause (List Char × Cursor) := do
  let isFolded := c.peek == '>'
  let (chomping, increment, c) ← blockHeader c.advance
  let c ← c.ignoredLine
  let least := (max (indent + 1) 1).toNat
  let (breaks, indent, c) :=
    match increment with
    | none =>
      let (breaks, greatest, c) := blockIndentation (c.rest.length + 1) 0 c
      (breaks, max least greatest, c)
    | some n =>
      let indent := least + n - 1
      let (breaks, c) := blockBreaks indent (c.rest.length + 1) c
      (breaks, indent, c)
  let (text, ended, after, c) := blockLines isFolded indent (c.rest.length + 1) breaks [] c
  -- the text ends with its last line, so what follows that is still to be added
  let tail := match chomping with
    | .strip => []
    | .clip => ended
    | .keep => ended ++ after
  return (text ++ tail, c)

end SoapStubs.Yaml
