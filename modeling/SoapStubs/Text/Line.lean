/-!
# Lines of text

Where one line ends and the next begins.  A line ends at LF, CR, CR LF, VT, FF, U+001C to
U+001E, NEL, LS or PS; what follows the last boundary is a line only if it is not empty.

* `isBoundary` names the boundaries, `lines` cuts a text at them;
* `unifyNewlines` is what reading a file as text does to line ends: CR LF and CR become LF.
-/

namespace SoapStubs.Text

/-- Does the character end a line? -/
def isBoundary (c : Char) : Bool :=
  let n := c.toNat
  (10 ≤ n && n ≤ 13) || (28 ≤ n && n ≤ 30) || n == 0x85 || n == 0x2028 || n == 0x2029

/-- The lines of a text, without the boundaries that end them. -/
def lineChars : List Char → List (List Char)
  | [] => []
  | '\r' :: '\n' :: cs => [] :: lineChars cs
  | c :: cs =>
    if isBoundary c then [] :: lineChars cs
    else
      match lineChars cs with
      | [] => [[c]]
      | l :: ls => (c :: l) :: ls

/-- The lines of a text, without the boundaries that end them. -/
def lines (s : String) : List String := (lineChars s.toList).map String.ofList

/-- CR LF and a CR on its own become LF. -/
def unifyNewlineChars : List Char → List Char
  | [] => []
  | '\r' :: '\n' :: cs => '\n' :: unifyNewlineChars cs
  | '\r' :: cs => '\n' :: unifyNewlineChars cs
  | c :: cs => c :: unifyNewlineChars cs

/-- CR LF and a CR on its own become LF. -/
def unifyNewlines (s : String) : String := String.ofList (unifyNewlineChars s.toList)

end SoapStubs.Text
