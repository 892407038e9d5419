import SoapStubs.Failure.Cause

/-!
# How deep JSON may be nested

Lists and mappings are read and written by recursion, for which the stack has room up to some depth.

* `Json.room` is the depth;
* `Json.inside` goes one level deeper, if there is room.
-/

namespace SoapStubs.Json

/-- How many lists and mappings may be inside each other.  The stack has room for a thousand calls,
and a few of them are those that led to the reader or the writer. -/
def room : Nat := 990

/-- What is done one level deeper, if there is room for it. -/
def inside {α : Type} (room : Nat) (doing : String) (next : Nat → Except Cause α) :
    Except Cause α :=
  match room with
  | 0 => .error (.recursion ("maximum recursion depth exceeded" ++ doing))
  | room + 1 => next room

end SoapStubs.Json
