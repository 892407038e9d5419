import SoapStubs.Failure.Cause

/-!
# Order of values

Which of two values comes first: texts by code points, numbers by size, dates by day, moments by
time, lists and tuples by their first items that differ, sets by inclusion.  Other values have no
order, nor have moments of which only one has a known place.

* `Binary64.less` compares floating-point numbers;
* `Value.less` compares values, or says that they have no order.
-/

namespace SoapStubs

namespace Binary64

/-- The number as a multiple of `2 ^ unit`, for a unit no larger than its exponent. -/
def multiple (negative : Bool) (mantissa : Nat) (exponent unit : Int) : Int :=
  let n : Int := (mantissa * Nat.pow 2 (exponent - unit).toNat : Nat)
  if negative then -n else n

/-- Is the first number smaller? -/
def less : Binary64 → Binary64 → Bool
  | .finite s m e, .finite s' m' e' => multiple s m e (min e e') < multiple s' m' e' (min e e')
  | .infinite s, .infinite s' => s && !s'
  | .infinite s, .finite .. => s
  | .finite .., .infinite s => !s
  | _, _ => false

end Binary64

namespace Value

/-- An integer as a floating-point number of unbounded precision. -/
def exact (n : Int) : Binary64 := .finite (n < 0) n.natAbs 0

/-- The number that a number or truth value is. -/
def number? : Value → Option Binary64
  | .int n => some (exact n)
  | .bool b => some (exact (if b then 1 else 0))
  | .float x => some x
  | _ => none

/-- The cause for two values without an order. -/
def unordered (v w : Value) : Cause :=
  .wrongType ("'<' not supported between instances of '" ++ v.fullTypeName ++ "' and '" ++
    w.fullTypeName ++ "'")

/-- The cause for a date and a moment. -/
def dayAndMoment : Cause :=
  .wrongType "can't compare datetime.datetime to datetime.date"

/-- Is the first moment before the second? -/
def momentLess (t u : Moment) : Except Cause Bool :=
  match t.instant?, u.instant? with
  | some i, some j => .ok (i < j)
  | none, none => .ok (t.clock < u.clock)
  | _, _ => .error (.wrongType "can't compare offset-naive and offset-aware datetimes")

mutual

/-- Does the first value come before the second? -/
def less : Value → Value → Except Cause Bool
  | .text s, .text t => .ok (s < t)
  | .list xs, .list ys => lessItems xs ys
  | .tuple xs, .tuple ys => lessItems xs ys
  | .date d, .date e => .ok (d.ordinal < e.ordinal)
  | .moment t, .moment u => momentLess t u
  | .date _, .moment _ => .error dayAndMoment
  | .moment _, .date _ => .error dayAndMoment
  | .bytes b, .bytes c => .ok (b < c)
  | .set xs, .set ys => .ok (xs.length < ys.length && within xs ys)
  | v, w =>
    match v.number?, w.number? with
    | some x, some y => .ok (x.less y)
    | _, _ => .error (unordered v w)
termination_by structural v => v

/-- Do the first items come before the second ones? -/
def lessItems : List Value → List Value → Except Cause Bool
  | [], ys => .ok !ys.isEmpty
  | _ :: _, [] => .ok false
  | x :: xs, y :: ys => if equals x y then lessItems xs ys else less x y
termination_by structural xs => xs

end

end Value

/-- The first of the items that no other comes before. -/
def leastM {ε α : Type} (less : α → α → Except ε Bool) (first : α) : List α → Except ε α
  | [] => .ok first
  | a :: rest => do
    leastM less (if ← less a first then a else first) rest

end SoapStubs
