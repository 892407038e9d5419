import SoapStubs.Text.Casing
import SoapStubs.Text.Split

/-!
# Qualified names

A qualified name `a.b.C` is a package `a.b` and a simple name `C`; the package may be empty.

* `Name.split` takes a qualified name apart, `Name.package` and `Name.simple` are its parts;
* `Name.qualify` puts a package in front of a simple name;
* `Name.segments` are the parts of a package, `Name.dotted` puts them together again.
-/

namespace SoapStubs.Name

/-- The package and the simple name of a qualified name. -/
def split (name : String) : String × String := Text.splitLast '.' name

/-- The package of a qualified name. -/
def package (name : String) : String := (split name).1

/-- The simple name of a qualified name. -/
def simple (name : String) : String := (split name).2

/-- The simple name in a package. -/
def qualify (package simple : String) : String :=
  if package = "" then simple else package ++ "." ++ simple

/-- The segments of a package; the empty package has none. -/
def segments (package : String) : List String :=
  if package = "" then [] else Text.split '.' package

/-- The package with the segments. -/
def dotted (segments : List String) : String := Text.join "." segments

end SoapStubs.Name
