import SoapStubs.Conversion
import SoapStubs.Deployment
import SoapStubs.Path

/-!
# Settings of a run

* `Settings` are the settings of a run with their defaults;
* `Settings.archiveBase`, `Settings.deployment` and the directories below the output directory are
  derived from them.
-/

namespace SoapStubs

/-- The settings of a run. -/
structure Settings where
  label : String := "enunciate"
  /-- The base name of the archives, if it is not made from the label. -/
  archiveName : Option String := none
  runId : String
  conversions : List Rule := []
  deploymentProtocol : String := "http"
  deploymentHost : String := "localhost"
  /-- The context path of the endpoints in normal form. -/
  deploymentContext : String := ""
  /-- The directory that everything is written to. -/
  outputDir : Path := .ofText "build/clientgen"
  /-- A directory with templates of one's own. -/
  templateDir : Option Path := none
  /-- The class path of the compiler. -/
  classpath : List String := []
  javac : String := "javac"
  /-- The seconds that the compiler may take. -/
  javacTimeout : Int := 600
  /-- Are both variants worked on at the same time? -/
  parallelVariants : Bool := false
  /-- The least level that is logged. -/
  logLevel : String := "INFO"
  logFormat : String := "console"
  deriving Repr, Inhabited

namespace Settings

variable (s : Settings)

/-- The base name of the archives. -/
def archiveBase : String :=
  match s.archiveName with
  | none | some "" => s.label ++ "-client"
  | some name => name

/-- Where the endpoints are by default. -/
def deployment : Deployment := ⟨s.deploymentProtocol, s.deploymentHost, s.deploymentContext⟩

def generateDir : Path := s.outputDir.child "generate"

/-- The directory of the compiled classes. -/
def compileDir : Path := s.outputDir.child "compile"

/-- The directory of the archives. -/
def buildDir : Path := s.outputDir.child "build"

end Settings

end SoapStubs
