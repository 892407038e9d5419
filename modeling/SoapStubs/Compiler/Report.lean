import SoapStubs.Text.Blank
import SoapStubs.Text.Line

/-!
# Compile reports

What a compiler said about the sources of one variant.

* `Report` is the outcome;
* `Report.diagnostics` are the lines of its output that are not blank.
-/

namespace SoapStubs

/-- The outcome of compiling one variant. -/
structure Report where
  /-- Were the sources accepted? -/
  success : Bool
  /-- The exit code of the compiler. -/
  returncode : Int := 0
  output : String := ""
  command : List String := []
  sources : Nat := 0
  deriving DecidableEq, Repr, Inhabited

/-- The lines of the output that are not blank. -/
def Report.diagnostics (r : Report) : List String :=
  (Text.lines r.output).filter fun line => Text.strip line != ""

end SoapStubs
