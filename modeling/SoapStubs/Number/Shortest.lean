import SoapStubs.Number.Binary64

/-!
# Shortest decimals

The decimal with the fewest digits that reads back as a given binary number, and its text.

* `Decimal` is a natural number of digits and a power of ten;
* `shortest` tests, for one digit, two digits and so on, the two neighbours of the value on the
  grid of decimals with that many digits, by exact integer arithmetic;
* `Binary64.text` lays the digits out: positionally for values from `0.0001` to below `1e16`,
  otherwise with an exponent of at least two digits; a point is always written in positional
  notation.
-/

namespace SoapStubs

/-- The number `digits · 10 ^ power`. -/
structure Decimal where
  /-- The digits, read as one number. -/
  digits : Nat
  /-- The power of ten of the last digit. -/
  power : Int
  deriving DecidableEq, Repr

namespace Binary64

/-- Values that round to one number: the ends of the interval around `centre`, all in units of
`num / den`, and whether the ends belong to it. -/
structure Interval where
  low : Nat
  centre : Nat
  high : Nat
  /-- The unit's numerator. -/
  num : Nat
  /-- The unit's denominator. -/
  den : Nat
  /-- Do the ends round to the number? -/
  closed : Bool

/-- The interval of values that round to `mantissa · 2 ^ exponent`. -/
def interval (mantissa : Nat) (exponent : Int) : Interval :=
  let below := if mantissa = Nat.pow 2 52 ∧ leastExponent < exponent then 1 else 2
  let e := exponent - 2
  { low := 4 * mantissa - below, centre := 4 * mantissa, high := 4 * mantissa + 2
    num := if 0 ≤ e then Nat.pow 2 e.toNat else 1
    den := if 0 ≤ e then 1 else Nat.pow 2 (-e).toNat
    closed := mantissa % 2 == 0 }

def tenNum (k : Int) : Nat := Nat.pow 10 k.toNat

def tenDen (k : Int) : Nat := Nat.pow 10 (-k).toNat

/-- Does the decimal lie in the interval? -/
def Interval.holds (i : Interval) (d : Decimal) : Bool :=
  let x := d.digits * tenNum d.power * i.den
  let low := i.low * i.num * tenDen d.power
  let high := i.high * i.num * tenDen d.power
  if i.closed then low ≤ x && x ≤ high else low < x && x < high

/-- The neighbours of the centre among the multiples of `10 ^ k`, the nearer one first. -/
def Interval.neighbours (i : Interval) (k : Int) : List Decimal :=
  let n := i.centre * i.num * tenDen k
  let d := i.den * tenNum k
  let q := n / d
  let r := n % d
  if 2 * r < d ∨ (2 * r = d ∧ q % 2 = 0) then [⟨q, k⟩, ⟨q + 1, k⟩] else [⟨q + 1, k⟩, ⟨q, k⟩]

/-- The power of ten of the centre's first digit, looked for downwards from `k`. -/
def Interval.leading (i : Interval) : (fuel : Nat) → (k : Int) → Int
  | 0, k => k
  | fuel + 1, k =>
    if i.den * tenNum k ≤ i.centre * i.num * tenDen k then k else i.leading fuel (k - 1)

/-- The first decimal in the interval among those whose last digit has the power `k`, `k - 1`
and so on. -/
def Interval.search (i : Interval) : (fuel : Nat) → (k : Int) → Decimal
  | 0, k => ⟨i.centre * i.num * tenDen k / (i.den * tenNum k), k⟩
  | fuel + 1, k =>
    match (i.neighbours k).find? i.holds with
    | some d => d
    | none => i.search fuel (k - 1)

/-- The decimal with the fewest digits that rounds to `mantissa · 2 ^ exponent`, for a mantissa
that is not zero. -/
def shortest (mantissa : Nat) (exponent : Int) : Decimal :=
  let i := interval mantissa exponent
  let whole := i.centre * i.num / i.den
  let first := i.leading 400 ((Nat.toDigits 10 whole).length - 1 : Int)
  i.search 20 first

/-- Digits with a point, the first digit having the power `first` of ten. -/
def positional (digits : List Char) (first : Int) : List Char :=
  if first < 0 then '0' :: '.' :: List.replicate (-first - 1).toNat '0' ++ digits
  else
    let whole := first.toNat + 1
    let fraction := digits.drop whole
    digits.take whole ++ List.replicate (whole - digits.length) '0' ++
      '.' :: (if fraction.isEmpty then ['0'] else fraction)

/-- Digits with an exponent, the first digit having the power `first` of ten. -/
def scientific (digits : List Char) (first : Int) : List Char :=
  let power := Nat.toDigits 10 first.natAbs
  digits.take 1 ++ (if digits.length ≤ 1 then [] else '.' :: digits.drop 1) ++
    'e' :: (if first < 0 then '-' else '+') :: List.replicate (2 - power.length) '0' ++ power

/-- The text of the number without its sign. -/
def magnitudeText (mantissa : Nat) (exponent : Int) : List Char :=
  if mantissa = 0 then "0.0".toList
  else
    let d := shortest mantissa exponent
    let trailing := ((Nat.toDigits 10 d.digits).reverse.takeWhile (· == '0')).length
    let digits := Nat.toDigits 10 (d.digits / Nat.pow 10 trailing)
    let first := d.power + trailing + digits.length - 1
    if -4 ≤ first ∧ first < 16 then positional digits first else scientific digits first

/-- The text of the number: the fewest digits that read back as it. -/
def text : Binary64 → String
  | .nan => "nan"
  | .infinite negative => if negative then "-inf" else "inf"
  | .finite negative m e => String.ofList ((if negative then ['-'] else []) ++ magnitudeText m e)

end Binary64

end SoapStubs
