import SoapStubs.Console.Layout

/-!
# Tables on a console

A table has a title, a heading and rows in boxes.  A column is as wide as its widest cell, with a
blank on each side, and a cell may have several lines.  On a console that is too narrow the widest
columns are made smaller.

* `Table` is a table of texts with markup;
* `Table.lines` are its lines: the title centred over the table, the heading in a heavy box and the
  rows in a light one.
-/

namespace SoapStubs.Console

/-- A column of a table. -/
structure Column where
  heading : String
  /-- Do the cells stand at the right side? -/
  atRight : Bool := false
  deriving Repr, Inhabited

/-- A table. -/
structure Table where
  title : String
  columns : List Column
  rows : List (List String) := []
  deriving Repr, Inhabited

/-- The characters that draw a line of a box. -/
structure Rule where
  left : Char
  fill : Char
  /-- Between two columns. -/
  cross : Char
  right : Char

/-- The top of the box. -/
def topRule : Rule := ⟨'┏', '━', '┳', '┓'⟩

/-- The line below the heading. -/
def headRule : Rule := ⟨'┡', '━', '╇', '┩'⟩

/-- The bottom of the box. -/
def bottomRule : Rule := ⟨'└', '─', '┴', '┘'⟩

/-- Parts with a character between them and at both ends. -/
def between (left cross right : Char) (parts : List (List Char)) : List Char :=
  left :: Text.joinPieces cross parts ++ [right]

/-- A line of a box over columns of the given widths. -/
def Rule.draw (r : Rule) (widths : List Nat) : List Char :=
  between r.left r.cross r.right (widths.map fun w => List.replicate (w + 2) r.fill)

/-- A line of a cell, with a blank on each side. -/
def padded (line : List Char) : List Char := ' ' :: line ++ [' ']

/-- The lines of a row in columns of given sides and widths. -/
def rowLines (bar : Char) (columns : List (Side × Nat)) (cells : List Markup.Shown) :
    Except Cause (List (List Char)) := do
  let texts ← (columns.zip cells).mapM fun ((side, width), cell) =>
    return layout width side .dots (← cell.settled)
  let height := (texts.map List.length).foldl max 1
  return (List.range height).map fun i =>
    between bar bar bar ((columns.zip texts).map fun ((_, width), lines) =>
      padded (lines.getD i (blanks width)))

/-! ### Widths of columns -/

/-- The quotient rounded to the nearest number, a half to the even one. -/
def nearestQuotient (n d : Nat) : Nat :=
  let q := n / d
  if 2 * (n % d) < d then q else if d < 2 * (n % d) then q + 1 else q + q % 2

/-- The widths with `excess` taken off those that are as wide as `widest`, evenly and at most `most`
off each; `count` is the number of those. -/
def takeOff (widest most : Nat) : (excess count : Nat) → List Nat → List Nat
  | _, _, [] => []
  | excess, count, w :: ws =>
    if w = widest && 0 < count then
      let n := min most (nearestQuotient excess count)
      (w - n) :: takeOff widest most (excess - n) (count - 1) ws
    else w :: takeOff widest most excess count ws

/-- The widths made smaller until their sum is at most `room`: the widest first, down to the next
one. -/
def collapse (room : Nat) : (fuel : Nat) → List Nat → List Nat
  | 0, ws => ws
  | fuel + 1, ws =>
    let excess := ws.foldr (· + ·) 0 - room
    let widest := ws.foldl max 0
    let next := (ws.filter (· ≠ widest)).foldl max 0
    if excess = 0 || widest = 0 then ws
    else
      collapse room fuel
        (takeOff widest (min excess (widest - next)) excess (ws.count widest) ws)

namespace Table

/-- The lines of the table on a console of some width. -/
def lines (t : Table) (width : Nat) : Except Cause (List String) := do
  let cells ← (List.range t.columns.length).mapM fun i =>
    ((t.columns.map (·.heading)) :: t.rows).mapM fun row => read (row.getD i "")
  let room := width - (t.columns.length + 1)
  let natural := cells.map fun column =>
    min room ((column.map fun cell => naturalWidth cell.chars).foldl max 0 + 2)
  let widths := (collapse room (natural.foldr (· + ·) 0 + 1) natural).map (· - 2)
  let columns := (t.columns.map fun c => if c.atRight then Side.right else .left).zip widths
  let row (i : Nat) : List Markup.Shown := cells.map (·.getD i default)
  let title ← (← read t.title).settled
  let heading ← rowLines '┃' columns (row 0)
  let body ← (List.range t.rows.length).mapM fun i => rowLines '│' columns (row (i + 1))
  let all := layout ((widths.map (· + 3)).foldr (· + ·) 0 + 1) .middle .fold title ++
    [topRule.draw widths] ++ heading ++ [headRule.draw widths] ++ body.flatten ++
    [bottomRule.draw widths]
  return all.map String.ofList

end Table

end SoapStubs.Console
