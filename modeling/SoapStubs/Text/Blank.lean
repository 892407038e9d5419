/-!
# White space

The characters that count as white space, and the text left when they are taken off its ends.
The set is the one of the Unicode property White_Space together with the four information
separators U+001C to U+001F.

* `isBlank` decides membership;
* `trimBy` takes the characters of a class off both ends, `strip` the blanks, `stripChar` one
  character;
* `words` are the stretches of a text between blanks.
-/

namespace SoapStubs.Text

/-- Is the character white space? -/
def isBlank (c : Char) : Bool :=
  let n := c.toNat
  (9 ≤ n && n ≤ 13) || (28 ≤ n && n ≤ 32) || n == 0x85 || n == 0xA0 || n == 0x1680 ||
    (0x2000 ≤ n && n ≤ 0x200A) || n == 0x2028 || n == 0x2029 || n == 0x202F || n == 0x205F ||
    n == 0x3000

/-- The list without the longest run of `p` at either end. -/
def trimBy (p : Char → Bool) (cs : List Char) : List Char :=
  ((cs.dropWhile p).reverse.dropWhile p).reverse

/-- The text without white space at either end. -/
def strip (s : String) : String := String.ofList (trimBy isBlank s.toList)

/-- The text without white space at its end. -/
def stripEnd (s : String) : String :=
  String.ofList (s.toList.reverse.dropWhile isBlank).reverse

/-- The text without the character `c` at either end. -/
def stripChar (c : Char) (s : String) : String := String.ofList (trimBy (· == c) s.toList)

/-- The stretches of characters between blanks, after one that has not ended yet. -/
def wordsFrom : (word : List Char) → List Char → List (List Char)
  | [], [] => []
  | word, [] => [word]
  | word, c :: cs =>
    if isBlank c then (if word.isEmpty then wordsFrom [] cs else word :: wordsFrom [] cs)
    else wordsFrom (word ++ [c]) cs

/-- The stretches of a text between blanks. -/
def words (s : String) : List String := (wordsFrom [] s.toList).map String.ofList

end SoapStubs.Text
