/-!
# Association lists in insertion order

A finite map whose keys keep the place where they were first put.  Keys are compared with `==`,
which need not be equality: the first key of a class of equal ones stays.

* `get?` and `has` look a key up;
* `put` replaces the value of a key in place or adds the key at the end;
* `ofList` puts pairs one after another, `putAll` on top of a map;
* `erase` takes a key out, `keys` lists the keys.
-/

namespace SoapStubs

/-- A map as the list of its pairs, in insertion order. -/
abbrev Ordered (κ : Type u) (α : Type v) := List (κ × α)

namespace Ordered

variable {κ : Type u} {α : Type v} [BEq κ]

/-- The value at a key. -/
def get? (m : Ordered κ α) (k : κ) : Option α :=
  match m with
  | [] => none
  | (k', a) :: rest => if k' == k then some a else get? rest k

def has (m : Ordered κ α) (k : κ) : Bool := m.any (·.1 == k)

/-- The map with `a` at `k`: in place if the key is there, else at the end. -/
def put (m : Ordered κ α) (k : κ) (a : α) : Ordered κ α :=
  match m with
  | [] => [(k, a)]
  | (k', b) :: rest => if k' == k then (k', a) :: rest else (k', b) :: put rest k a

/-- The pairs put into the map one after another. -/
def putAll (m : Ordered κ α) (pairs : List (κ × α)) : Ordered κ α :=
  pairs.foldl (fun m p => m.put p.1 p.2) m

/-- The map of the pairs: the last value of a key wins, at the place of its first. -/
def ofList (pairs : List (κ × α)) : Ordered κ α := putAll [] pairs

/-- The map with the value at `k` put through `f`, where `f none` is put at a new key. -/
def alter (m : Ordered κ α) (k : κ) (f : Option α → α) : Ordered κ α :=
  m.put k (f (m.get? k))

/-- The map without the key. -/
def erase (m : Ordered κ α) (k : κ) : Ordered κ α := m.filter fun p => !(p.1 == k)

/-- The keys, in insertion order. -/
def keys {κ : Type u} {α : Type v} (m : Ordered κ α) : List κ := m.map Prod.fst

/-- The values, in insertion order. -/
def values {κ : Type u} {α : Type v} (m : Ordered κ α) : List α := m.map Prod.snd

end Ordered

end SoapStubs
