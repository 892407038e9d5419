import SoapStubs.Value.Print

/-!
# Causes

What goes wrong below the library's own rules: a value of the wrong shape, a missing key, a
file that cannot be read.

* `Cause` is the type; `Cause.label` names its class and `Cause.message` words it;
* `FileProblem` says what a file operation ran into, with the number and the words of the
  operating system.
-/

namespace SoapStubs

/-- What a file operation ran into. -/
inductive FileProblem where
  | missing
  | exists
  /-- A file is where a directory is needed. -/
  | notDirectory
  /-- A directory is where a file is needed. -/
  | isDirectory
  /-- A directory that has to be empty is not. -/
  | notEmpty
  | nameTooLong
  /-- What is there may not be used that way. -/
  | denied
  /-- A path has a character that no path can have. -/
  | nullCharacter
  deriving DecidableEq, Repr, Inhabited

namespace FileProblem

/-- The class of the problem. -/
def label : FileProblem → String
  | .missing => "FileNotFoundError"
  | .exists => "FileExistsError"
  | .notDirectory => "NotADirectoryError"
  | .isDirectory => "IsADirectoryError"
  | .notEmpty => "OSError"
  | .nameTooLong => "OSError"
  | .denied => "PermissionError"
  | .nullCharacter => "ValueError"

/-- The operating system's words for the problem. -/
def words : FileProblem → String
  | .missing => "[Errno 2] No such file or directory"
  | .exists => "[Errno 17] File exists"
  | .notDirectory => "[Errno 20] Not a directory"
  | .isDirectory => "[Errno 21] Is a directory"
  | .notEmpty => "[Errno 39] Directory not empty"
  | .nameTooLong => "[Errno 36] File name too long"
  | .denied => "[Errno 13] Permission denied"
  | .nullCharacter => "embedded null byte"

end FileProblem

/-- What went wrong below the library's own rules. -/
inductive Cause where
  /-- A mapping has no such key. -/
  | missingKey (key : Value)
  /-- A value outside the range of what it should be. -/
  | invalid (message : String)
  /-- A value of a type the operation is not defined on. -/
  | wrongType (message : String)
  /-- A value without the member that is asked for. -/
  | noMember (message : String)
  /-- A place outside a text. -/
  | outOfRange (message : String)
  /-- A number that is too large for its use. -/
  | overflow (message : String)
  | undecodable (message : String)
  /-- A source of settings that cannot be read. -/
  | settings (message : String)
  /-- A file operation that failed. -/
  | file (problem : FileProblem) (path : String)
  /-- A text that is no JSON document. -/
  | json (message : String)
  /-- A text that is no YAML document. -/
  | yaml (message : String)
  /-- Settings that do not have the shape they should have. -/
  | validation (message : String)
  /-- A name that a template uses and nobody defined. -/
  | undefined (message : String)
  | noTemplate (name : String)
  /-- A template that cannot be filled for another reason. -/
  | template (label message : String)
  /-- A value that the console cannot show. -/
  | unprintable (message : String)
  /-- A closing tag of console markup that closes nothing. -/
  | markup (message : String)
  /-- Nesting that is too deep. -/
  | recursion (message : String)
  /-- The program is told to stop, by its user or by itself. -/
  | interrupt (label : String)
  deriving Repr, Inhabited

namespace Cause

/-- The class of the cause. -/
def label : Cause → String
  | .missingKey _ => "KeyError"
  | .invalid _ => "ValueError"
  | .wrongType _ => "TypeError"
  | .noMember _ => "AttributeError"
  | .outOfRange _ => "IndexError"
  | .overflow _ => "OverflowError"
  | .undecodable _ => "UnicodeDecodeError"
  | .settings _ => "SettingsError"
  | .file problem _ => problem.label
  | .json _ => "JSONDecodeError"
  | .yaml _ => "YAMLError"
  | .validation _ => "ValidationError"
  | .undefined _ => "UndefinedError"
  | .noTemplate _ => "TemplateNotFound"
  | .template label _ => label
  | .unprintable _ => "NotRenderableError"
  | .markup _ => "MarkupError"
  | .recursion _ => "RecursionError"
  | .interrupt label => label

/-- The wording of the cause. -/
def message : Cause → String
  | .missingKey key => key.quoted
  | .invalid m => m
  | .wrongType m => m
  | .noMember m => m
  | .outOfRange m => m
  | .overflow m => m
  | .undecodable m => m
  | .settings m => m
  | .file problem path => problem.words ++ ": " ++ Text.quote path
  | .json m => m
  | .yaml m => m
  | .validation m => m
  | .undefined m => m
  | .noTemplate name => name
  | .template _ m => m
  | .unprintable m => m
  | .markup m => m
  | .recursion m => m
  | .interrupt _ => ""

/-- Does the cause end the program unless it is caught by its name? -/
def isInterrupt : Cause → Bool
  | .interrupt _ => true
  | _ => false

end Cause

/-- A problem with a path as a cause.  A path that cannot be one is no problem of the files. -/
def FileProblem.cause (problem : FileProblem) (path : String) : Cause :=
  match problem with
  | .nullCharacter => .invalid problem.words
  | _ => .file problem path

end SoapStubs
