import SoapStubs.Failure.Cause

/-!
# Places in a YAML text

* `Cursor` is a place in a text: what is left of it, and its line and column;
* `Cursor.peek`, `Cursor.advance` and `Cursor.span` look at the characters from there on;
* `Cursor.lineBreak` reads the end of a line.

The end of the text reads as the character with the code 0, which no text has.
-/

namespace SoapStubs.Yaml

/-- A text that is not well formed. -/
def malformed {α : Type} (reason : String) : Except Cause α := .error (.yaml reason)

/-- What the end of the text reads as. -/
def ending : Char := '\x00'

/-- Does the character end a line? -/
def isBreak (c : Char) : Bool :=
  c == '\n' || c == '\r' || c == '\x85' || c == '\u2028' || c == '\u2029'

/-- Does the character end a line, or is it the end of the text? -/
def isLineEnd (c : Char) : Bool := c == ending || isBreak c

/-- Is the character a blank, or does it end a line or the text? -/
def isSpaceOrEnd (c : Char) : Bool := c == ' ' || isLineEnd c

/-- Is the character a blank or a tab, or does it end a line or the text? -/
def isBlankOrEnd (c : Char) : Bool := c == '\t' || isSpaceOrEnd c

/-- May the character stand in a text? -/
def isAllowed (c : Char) : Bool :=
  c == '\t' || c == '\n' || c == '\r' || (' ' ≤ c && c ≤ '~') || c == '\x85' ||
    ('\xa0' ≤ c && c ≤ '\ufffd') || 0x10000 ≤ c.toNat

/-- A place in a text. -/
structure Cursor where
  rest : List Char
  /-- The number of characters before the place. -/
  index : Nat := 0
  /-- The number of lines before the place. -/
  line : Nat := 0
  /-- The number of characters before the place in its line. -/
  column : Nat := 0
  deriving Inhabited

namespace Cursor

def peek (c : Cursor) (distance : Nat := 0) : Char := c.rest.getD distance ending

/-- The place after the next character. -/
def advance (c : Cursor) : Cursor :=
  match c.rest with
  | [] => c
  | ch :: rest =>
    let c := { c with rest, index := c.index + 1 }
    if (isBreak ch && ch != '\r') || (ch == '\r' && rest.head? != some '\n') then
      { c with line := c.line + 1, column := 0 }
    else if ch == '\ufeff' then c
    else { c with column := c.column + 1 }

/-- The place after the next `n` characters. -/
def advanceBy (c : Cursor) : (n : Nat) → Cursor
  | 0 => c
  | n + 1 => advanceBy c.advance n

/-- The characters of a class from the place on, and the place after them. -/
def span (c : Cursor) (p : Char → Bool) : List Char × Cursor :=
  let found := c.rest.takeWhile p
  (found, c.advanceBy found.length)

/-- The place after the characters of a class. -/
def skip (c : Cursor) (p : Char → Bool) : Cursor := (c.span p).2

/-- The place after blanks. -/
def skipSpaces (c : Cursor) : Cursor := c.skip (· == ' ')

/-- The end of a line as it is kept, and the place after it; nothing if no line ends here. -/
def lineBreak (c : Cursor) : List Char × Cursor :=
  match c.rest with
  | '\r' :: '\n' :: _ => (['\n'], c.advanceBy 2)
  | ch :: _ =>
    if ch == '\u2028' || ch == '\u2029' then ([ch], c.advance)
    else if isBreak ch then (['\n'], c.advance)
    else ([], c)
  | [] => ([], c)

/-- Do three characters of a kind and then a blank or an end follow? -/
def isMarker (c : Cursor) (mark : Char) : Bool :=
  c.peek == mark && c.peek 1 == mark && c.peek 2 == mark && isBlankOrEnd (c.peek 3)

/-- Does the start or the end of a document follow? -/
def isDocumentMarker (c : Cursor) : Bool := c.isMarker '-' || c.isMarker '.'

/-- The place after blanks and a comment. -/
def skipComment (c : Cursor) : Cursor :=
  let c := c.skipSpaces
  if c.peek == '#' then c.skip fun ch => !isLineEnd ch else c

/-- The place after blanks, a comment and the end of the line; nothing else may stand there. -/
def ignoredLine (c : Cursor) : Except Cause Cursor :=
  let c := c.skipComment
  if isLineEnd c.peek then .ok c.lineBreak.2
  else malformed "expected a comment or a line break"

end Cursor

end SoapStubs.Yaml
