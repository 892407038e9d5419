import SoapStubs.Console.Markup
import SoapStubs.Console.Width
import SoapStubs.Text.Line
import SoapStubs.Text.Split

/-!
# Lines on a console

* `Console.read` is a text with markup, ready to be shown;
* `Overflow` says what becomes of words that are longer than a line and `Side` where lines stand;
* `Console.layout` puts a text into lines of some width: tabs become blanks, and what does not fit
  goes to the next line;
* `Console.lines` are the lines of a text with markup.
-/

namespace SoapStubs.Console

/-- Is the character one that moves the cursor instead of being shown? -/
def isControl (c : Char) : Bool :=
  c == '\x07' || c == '\x08' || c == '\x0b' || c == '\x0c' || c == '\r'

/-- A text with markup, ready to be shown. -/
def read (s : String) : Except Cause Markup.Shown := do
  let shown ← Markup.read s
  return { shown with chars := shown.chars.filter fun c => !isControl c }

/-- The width of a text as long as its lines are.  A tab counts for nothing. -/
def naturalWidth (cs : List Char) : Nat := ((Text.lineChars cs).map textWidth).foldl max 0

/-- The distance between two tab stops. -/
def tabStop : Nat := 8

/-- So many blanks. -/
def blanks (n : Nat) : List Char := List.replicate n ' '

/-- Parts of a line with blanks up to the next tab stop between them, from a column on. -/
def joinStops : (column : Nat) → List (List Char) → List Char
  | _, [] => []
  | _, [part] => part
  | column, part :: parts =>
    let column := column + textWidth part
    let n := tabStop - column % tabStop
    part ++ blanks n ++ joinStops (column + n) parts

/-- The line with blanks up to the next tab stop for each tab. -/
def expandTabs (line : List Char) : List Char := joinStops 0 (Text.pieces '\t' line)

/-! ### Breaking lines -/

/-- What becomes of a text that is too long for a line. -/
inductive Overflow where
  /-- It goes on in the next line. -/
  | fold
  /-- It is cut, with dots at the end. -/
  | dots
  deriving DecidableEq, Repr, Inhabited

/-- Where the lines of a text stand. -/
inductive Side where
  | free
  | left
  | right
  | middle
  deriving DecidableEq, Repr, Inhabited

/-- The graphemes in groups that take at most `width` columns, after a group that takes `used`. -/
def chopFrom (width : Nat) : (group : List Char) → (used : Nat) → List Grapheme → List (List Char)
  | group, _, [] => [group]
  | group, used, g :: gs =>
    if width < used + g.width then group :: chopFrom width g.chars g.width gs
    else chopFrom width (group ++ g.chars) (used + g.width) gs

/-- The characters in groups that take at most `width` columns. -/
def chop (width : Nat) (cs : List Char) : List (List Char) := chopFrom width [] 0 (graphemes cs)

/-- The words of a line, each with the blanks around it. -/
def spacedWords : (fuel : Nat) → List Char → List (List Char)
  | 0, _ => []
  | fuel + 1, cs =>
    let (before, rest) := cs.span Text.isBlank
    let (word, rest) := rest.span fun c => !Text.isBlank c
    let (after, rest) := rest.span Text.isBlank
    if word.isEmpty then [] else (before ++ word ++ after) :: spacedWords fuel rest

/-- The characters without blanks at the end. -/
def trimEnd (cs : List Char) : List Char := (cs.reverse.dropWhile Text.isBlank).reverse

/-- The line, unless nothing is on it yet. -/
def begun (line : List Char) : List (List Char) := if line.isEmpty then [] else [line]

/-- Words put into lines of at most `width` columns, after a line that takes `used`. -/
def fill (width : Nat) (overflow : Overflow) :
    (line : List Char) → (used : Nat) → List (List Char) → List (List Char)
  | line, _, [] => [line]
  | line, used, word :: rest =>
    let long := textWidth (trimEnd word)
    if used + long ≤ width then fill width overflow (line ++ word) (used + textWidth word) rest
    else if width < long && overflow = .fold then
      let groups := chop width word
      let last := groups.getLast?.getD []
      begun line ++ groups.dropLast ++ fill width overflow last (textWidth last) rest
    else begun line ++ fill width overflow word (textWidth word) rest

/-- The line in lines of at most `width` columns. -/
def breakLine (width : Nat) (overflow : Overflow) (cs : List Char) : List (List Char) :=
  match spacedWords (cs.length + 1) cs with
  | [] => [cs]
  | ws => fill width overflow [] 0 ws

/-- The line without those blanks at its end that go beyond `width` characters. -/
def trimBeyond (width : Nat) (line : List Char) : List Char :=
  let kept := (trimEnd line).length
  line.take (max kept width)

/-- The line cut to at most `width` columns. -/
def truncate (width : Nat) (overflow : Overflow) (line : List Char) : List Char :=
  if textWidth line ≤ width then line
  else
    match overflow with
    | .fold => cutTo width line
    | .dots => cutTo (width - 1) line ++ ['…']

def placed (width : Nat) (side : Side) (overflow : Overflow) (line : List Char) : List Char :=
  match side with
  | .free => truncate width overflow line
  | .left =>
    let line := truncate width overflow line
    line ++ blanks (width - textWidth line)
  | .right =>
    let line := truncate width overflow (trimEnd line)
    blanks (width - textWidth line) ++ line
  | .middle =>
    let line := truncate width overflow (trimEnd line)
    let spare := width - textWidth line
    blanks (spare / 2) ++ line ++ blanks (spare - spare / 2)

/-- The lines of a text in `width` columns. -/
def layout (width : Nat) (side : Side) (overflow : Overflow) (cs : List Char) :
    List (List Char) :=
  (Text.pieces '\n' cs).flatMap fun line =>
    (breakLine width overflow (expandTabs line)).map fun part =>
      placed width side overflow (trimBeyond width part)

/-- The lines of a text with markup on a console. -/
def lines (width : Nat) (s : String) : Except Cause (List String) := do
  return (layout width .free .fold (← (← read s).settled)).map String.ofList

end SoapStubs.Console
