/-!
# Base 64

Bytes written with 64 characters, four for three bytes.

* `Base64.digit?` is the value of a character;
* `Base64.decode?` gives the bytes of a text.  Characters of no value are passed over, and the text
  ends where a group is filled up with equals signs; a group that is not complete has no bytes.
-/

namespace SoapStubs.Base64

/-- The value of a character. -/
def digit? (c : Char) : Option Nat :=
  let n := c.toNat
  if 'A' ≤ c ∧ c ≤ 'Z' then some (n - 65)
  else if 'a' ≤ c ∧ c ≤ 'z' then some (n - 71)
  else if '0' ≤ c ∧ c ≤ '9' then some (n + 4)
  else if c = '+' then some 62
  else if c = '/' then some 63
  else none

/-- A group that is not complete yet. -/
structure Group where
  /-- The number of its characters so far. -/
  size : Nat := 0
  /-- The bits that make no byte yet. -/
  bits : Nat := 0
  /-- The number of equals signs at its end. -/
  filled : Nat := 0

/-- The group after a character, and the byte that is complete now. -/
def Group.add (g : Group) (digit : Nat) : Group × List UInt8 :=
  match g.size with
  | 0 => ({ size := 1, bits := digit }, [])
  | 1 => ({ size := 2, bits := digit % 16 }, [UInt8.ofNat (4 * g.bits + digit / 16)])
  | 2 => ({ size := 3, bits := digit % 4 }, [UInt8.ofNat (16 * g.bits + digit / 4)])
  | _ => ({}, [UInt8.ofNat (64 * g.bits + digit)])

/-- The bytes of a text after a group. -/
def decodeFrom : (g : Group) → List Char → Option (List UInt8)
  | g, [] => if g.size = 0 then some [] else none
  | g, c :: cs =>
    if c = '=' then
      if 2 ≤ g.size then
        if 4 ≤ g.size + g.filled + 1 then some []
        else decodeFrom { g with filled := g.filled + 1 } cs
      else decodeFrom g cs
    else
      match digit? c with
      | none => decodeFrom g cs
      | some d =>
        let (g, found) := g.add d
        (decodeFrom g cs).map (found ++ ·)

/-- The bytes of a text. -/
def decode? (cs : List Char) : Option (List UInt8) := decodeFrom {} cs

end SoapStubs.Base64
