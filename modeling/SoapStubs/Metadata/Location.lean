import SoapStubs.Path

/-!
# Where metadata is kept

The two files of a run in a directory: the list of generated types and the binding metadata.

* `typesPath` and `bindingsPath` are the two files;
* `runOf` is the run that the name of a metadata file tells.
-/

namespace SoapStubs.Metadata

/-- What the names of files of types end in. -/
def typesSuffix : String := ".types"

/-- What the names of files of binding metadata end in. -/
def bindingsSuffix : String := ".bindings.json"

/-- The file of the generated types. -/
def typesPath (directory : Path) (run : String) : Path := directory.child (run ++ typesSuffix)

/-- The file of the binding metadata. -/
def bindingsPath (directory : Path) (run : String) : Path :=
  directory.child (run ++ bindingsSuffix)

/-- The run that a file's name tells: the name without the ending of binding metadata. -/
def runOf (name : String) : String :=
  if Text.endsIn bindingsSuffix name then Text.dropEnd bindingsSuffix.length name else name

end SoapStubs.Metadata
