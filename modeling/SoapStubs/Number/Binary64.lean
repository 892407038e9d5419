/-!
# Binary floating-point numbers

Numbers of 53 significant bits with the exponent range of 64-bit binary floating point, kept
as a sign, a natural number and a power of two, so that every question about them is one about
integers.

* `Binary64` is the type; a finite number is `±mantissa · 2 ^ exponent`;
* `ofRatio` rounds a quotient of natural numbers to the nearest number, a tie to the even
  mantissa; `ofDecimal` does so for a decimal number;
* `toInt?` is the integer a number is equal to, `equals` numeric equality;
* `plus` and `times` are the rounded sum and product.
-/

namespace SoapStubs

/-- A binary floating-point number. -/
inductive Binary64 where
  /-- The number `±mantissa · 2 ^ exponent`. -/
  | finite (negative : Bool) (mantissa : Nat) (exponent : Int)
  | infinite (negative : Bool)
  | nan
  deriving DecidableEq, Repr, Inhabited

namespace Binary64

/-- The exponent of the smallest positive number. -/
def leastExponent : Int := -1074

/-- The exponent of the largest finite number. -/
def greatestExponent : Int := 971

def zero (negative : Bool) : Binary64 := .finite negative 0 leastExponent

/-- The natural number nearest to `num / den`; a tie goes to the even one. -/
def roundDiv (num den : Nat) : Nat :=
  let q := num / den
  let r := num % den
  if 2 * r < den then q
  else if 2 * r = den then q + q % 2
  else q + 1

/-- `num / den` in units of `2 ^ e`, rounded. -/
def scaled (num den : Nat) (e : Int) : Nat :=
  if 0 ≤ e then roundDiv num (den * Nat.pow 2 e.toNat)
  else roundDiv (num * Nat.pow 2 (-e).toNat) den

/-- The number nearest to `±num / den`. -/
def ofRatio (negative : Bool) (num den : Nat) : Binary64 :=
  if num = 0 then zero negative
  else
    let guess : Int := (num.log2 : Int) - den.log2 - 53
    let e := if scaled num den (max guess leastExponent) < Nat.pow 2 53 then guess else guess + 1
    let e := max e leastExponent
    let m := scaled num den e
    let (m, e) := if m < Nat.pow 2 53 then (m, e) else (Nat.pow 2 52, e + 1)
    if greatestExponent < e then .infinite negative else .finite negative m e

/-- The number nearest to `±digits · 10 ^ power`.  Powers beyond every number's range are
settled without computing them. -/
def ofDecimal (negative : Bool) (digits : Nat) (power : Int) : Binary64 :=
  if digits = 0 then zero negative
  else
    let magnitude : Int := (Nat.toDigits 10 digits).length + power
    if 400 < magnitude then .infinite negative
    else if magnitude < -400 then zero negative
    else if 0 ≤ power then ofRatio negative (digits * Nat.pow 10 power.toNat) 1
    else ofRatio negative digits (Nat.pow 10 (-power).toNat)

def ofInt (n : Int) : Binary64 := ofRatio (n < 0) n.natAbs 1

/-- Is the number zero? -/
def isZero : Binary64 → Bool
  | .finite _ m _ => m == 0
  | _ => false

/-- The integer the number is equal to, if it has no fractional part. -/
def toInt? : Binary64 → Option Int
  | .finite negative m e =>
    let magnitude : Option Nat :=
      if 0 ≤ e then some (m * Nat.pow 2 e.toNat)
      else if m % Nat.pow 2 (-e).toNat = 0 then some (m / Nat.pow 2 (-e).toNat)
      else none
    magnitude.map fun n => if negative then -(n : Int) else n
  | _ => none

/-- The number `±mantissa · 2 ^ exponent` as a quotient. -/
def quotient (negative : Bool) (mantissa : Nat) (exponent : Int) : Int × Nat :=
  let n : Int := if negative then -(mantissa : Int) else mantissa
  if 0 ≤ exponent then (n * (Nat.pow 2 exponent.toNat : Nat), 1)
  else (n, Nat.pow 2 (-exponent).toNat)

/-- The number nearest to a sum.  A sum of zero is negative only if both numbers are. -/
def plus : Binary64 → Binary64 → Binary64
  | .finite s m e, .finite s' m' e' =>
    let (a, b) := quotient s m e
    let (c, d) := quotient s' m' e'
    let n := a * d + c * b
    if n = 0 then zero (s && s') else ofRatio (n < 0) n.natAbs (b * d)
  | .infinite s, .infinite s' => if s = s' then .infinite s else .nan
  | .infinite s, .finite .. => .infinite s
  | .finite .., .infinite s => .infinite s
  | _, _ => .nan

/-- The number nearest to a product. -/
def times : Binary64 → Binary64 → Binary64
  | .finite s m e, .finite s' m' e' =>
    let (a, b) := quotient s m e
    let (c, d) := quotient s' m' e'
    ofRatio (s != s') (a * c).natAbs (b * d)
  | .infinite s, .infinite s' => .infinite (s != s')
  | .infinite s, .finite s' m _ => if m = 0 then .nan else .infinite (s != s')
  | .finite s m _, .infinite s' => if m = 0 then .nan else .infinite (s != s')
  | _, _ => .nan

/-- The number with the sign changed. -/
def negate : Binary64 → Binary64
  | .finite s m e => .finite (!s) m e
  | .infinite s => .infinite (!s)
  | .nan => .nan

/-- Numeric equality: the two zeros are equal, and nothing is equal to `nan`. -/
def equals : Binary64 → Binary64 → Bool
  | .finite s m e, .finite s' m' e' => (m == 0 && m' == 0) || (s == s' && m == m' && e == e')
  | .infinite s, .infinite s' => s == s'
  | _, _ => false

end Binary64

end SoapStubs
