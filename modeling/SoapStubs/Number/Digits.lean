import SoapStubs.Failure.Cause
import SoapStubs.Text.Blank

/-!
# Numbers in decimal digits

* `isMargin` names the blanks that may stand around a number;
* `digitsValue` is the number that decimal digits make;
* `wholeNumber` is the same for digits of a document, which may not be too many.
-/

namespace SoapStubs.Number

/-- May the character stand around a number?  It may if it is white space and no separator of
information. -/
def isMargin (c : Char) : Bool := Text.isBlank c && !('\x1c' ≤ c && c ≤ '\x1f')

/-- The number that decimal digits make. -/
def digitsValue (digits : List Char) : Nat :=
  digits.foldl (fun n c => 10 * n + (c.toNat - 48)) 0

/-- The digits in front and what follows them. -/
def spanDigits (cs : List Char) : List Char × List Char :=
  (cs.takeWhile Char.isDigit, cs.dropWhile Char.isDigit)

/-- The most digits that a whole number of a document may have. -/
def mostDigits : Nat := 4300

/-- The objection to a number with more digits. -/
def tooManyDigits (count : Nat) : Cause :=
  .invalid ("Exceeds the limit (" ++ toString mostDigits ++
    " digits) for integer string conversion: value has " ++ toString count ++
    " digits; use sys.set_int_max_str_digits() to increase the limit")

/-- The whole number that decimal digits of a document make. -/
def wholeNumber (digits : List Char) : Except Cause Nat :=
  if mostDigits < digits.length then .error (tooManyDigits digits.length)
  else .ok (digitsValue digits)

end SoapStubs.Number
