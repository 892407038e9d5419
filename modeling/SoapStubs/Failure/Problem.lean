import SoapStubs.Value.Print

/-!
# Problems

What the library itself objects to.

* `Kind` sorts problems by concern and `Category` is the concern as it is reported;
* `Problem` has one constructor for each objection, `Problem.message` words it and
  `Problem.kind` says which concern it belongs to.
-/

namespace SoapStubs

/-- The concern an error is reported under. -/
inductive Category where
  | config
  | model
  /-- Files that cannot be written or read. -/
  | storage
  /-- The compiler behind the generator. -/
  | compile
  | internal
  deriving DecidableEq, Repr, Inhabited

/-- The name of the concern. -/
def Category.label : Category → String
  | .config => "CONFIG"
  | .model => "MODEL"
  | .storage => "STORAGE"
  | .compile => "COMPILE"
  | .internal => "INTERNAL"

/-- The kinds of errors. -/
inductive Kind where
  /-- An error of no special kind. -/
  | general
  /-- A configuration that cannot be used. -/
  | configuration
  /-- A model that cannot be resolved consistently. -/
  | integrity
  /-- Metadata that cannot be written or read. -/
  | persistence
  /-- Sources that the compiler rejects. -/
  | compilation
  deriving DecidableEq, Repr, Inhabited

namespace Kind

/-- The name of the kind. -/
def label : Kind → String
  | .general => "ClientGenError"
  | .configuration => "ConfigurationError"
  | .integrity => "ModelIntegrityError"
  | .persistence => "PersistenceError"
  | .compilation => "DownstreamCompileError"

/-- The concern an error of the kind is reported under unless it says otherwise. -/
def category : Kind → Category
  | .general => .internal
  | .configuration => .config
  | .integrity => .model
  | .persistence => .storage
  | .compilation => .compile

end Kind

/-- What the library objects to. -/
inductive Problem where
  /-- A side of a conversion rule is no dotted identifier. -/
  | malformedRule (side : String) (package : String)
  /-- The source package of a rule lies under the target package of a rule. -/
  | chainedRules (source target : String)
  /-- An entity without a qualified name. -/
  | unnamed (type : String)
  | sameFault (first second identifier : String)
  /-- A fault declared with different carriers. -/
  | carrierConflict (name carriers : String)
  /-- An implicit fault without the name of its carrier. -/
  | noCarrier
  | manifestClosed (identifier : String)
  | sameType (origin existing identifier : String)
  | registryClosed (kind key : String)
  /-- A record without a key. -/
  | noKey (kind : String)
  /-- A record of an overlay that the registry below has. -/
  | redefined (kind : String)
  | overlayOfOpen
  /-- A document of another format. -/
  | otherFormat (format : Value)
  /-- A document of another version. -/
  | otherVersion (version : Value)
  /-- A record of a document that cannot be read. -/
  | malformedRecord
  | noTypes
  | noBindings
  /-- A directory that cannot be made. -/
  | cannotCreate (path : String)
  | cannotWrite (path : String)
  | cannotReadTypes (path : String)
  | cannotReadBindings (path : String)
  | cannotLoad (path : String)
  | cannotRender (template : String)
  /-- A conversion without one of its sides. -/
  | missingSide (side : String)
  /-- A setting that is not as it should be. -/
  | invalidSetting (location reason : String)
  /-- A configuration file that cannot be read. -/
  | cannotReadSettings (path : String)
  /-- A configuration file that is no YAML. -/
  | settingsNotYaml (path : String)
  /-- A configuration file that is no mapping. -/
  | settingsNotMapping (path : String)
  /-- A message without the name of its bean. -/
  | noBean (message element : String)
  /-- A variant phase before the common phase. -/
  | variantBeforeCommon
  | compileBeforeCommon
  /-- Sources of a variant that the compiler rejected. -/
  | compileFailed (variant : String)
  /-- An objection in words of its own. -/
  | stated (kind : Kind) (message : String)
  deriving Repr, Inhabited

namespace Problem

/-- The wording of the problem. -/
def message : Problem → String
  | .malformedRule side package =>
    "Malformed package conversion rule: '" ++ side ++ "' package " ++ Text.quote package ++
      " is not a dotted identifier"
  | .chainedRules source target =>
    "Malformed package conversion rules: source package '" ++ source ++
      "' lies under target package '" ++ target ++ "'"
  | .unnamed type => type ++ " has no qualified name"
  | .sameFault first second identifier =>
    "Faults '" ++ first ++ "' and '" ++ second ++ "' both resolve to '" ++ identifier ++ "'"
  | .carrierConflict name carriers =>
    "Fault '" ++ name ++ "' is declared with conflicting carriers: " ++ carriers
  | .noCarrier => "Implicit fault has no carrier bean name"
  | .manifestClosed identifier => "Type manifest is frozen; cannot add '" ++ identifier ++ "'"
  | .sameType origin existing identifier =>
    "'" ++ origin ++ "' and '" ++ existing ++ "' both resolve to generated type '" ++
      identifier ++ "'"
  | .registryClosed kind key =>
    "Binding registry is frozen; cannot record " ++ kind ++ " for '" ++ key ++ "'"
  | .noKey kind => "Cannot record " ++ kind ++ " descriptor without a key"
  | .redefined kind => "Variant overlay cannot redefine common " ++ kind ++ " descriptor"
  | .overlayOfOpen => "Binding registry must be frozen before creating an overlay"
  | .otherFormat format => "Not a binding metadata document: format=" ++ format.quoted
  | .otherVersion version => "Unsupported binding metadata version " ++ version.quoted
  | .malformedRecord => "Malformed binding metadata record"
  | .noTypes => "No type list to write"
  | .noBindings => "No binding metadata to write"
  | .cannotCreate path => "Cannot create " ++ path
  | .cannotWrite path => "Cannot write binding metadata to " ++ path
  | .cannotReadTypes path => "Cannot read type list " ++ path
  | .cannotReadBindings path => "Cannot read binding metadata " ++ path
  | .cannotLoad path => "Cannot load service model from " ++ path
  | .cannotRender template => "Cannot render template '" ++ template ++ "'"
  | .missingSide side =>
    "A '" ++ side ++ "' attribute must be specified on a package conversion"
  | .invalidSetting location reason => "Invalid configuration: " ++ location ++ ": " ++ reason
  | .cannotReadSettings path => "Cannot read configuration file " ++ path
  | .settingsNotYaml path => "Invalid YAML in configuration file " ++ path
  | .settingsNotMapping path => "Configuration file " ++ path ++ " must contain a mapping"
  | .noBean message element => message ++ " '" ++ element ++ "' has no bean name"
  | .variantBeforeCommon => "The common phase must run before a variant phase"
  | .compileBeforeCommon => "The common phase must run before compilation"
  | .compileFailed variant => "Compilation of the " ++ variant ++ " client library failed"
  | .stated _ message => message

/-- The kind of error the problem makes. -/
def kind : Problem → Kind
  | .malformedRule .. | .chainedRules .. | .unnamed _ | .sameFault .. | .carrierConflict ..
  | .noCarrier | .sameType .. | .noKey _ | .redefined _ | .cannotLoad _ | .noBean .. => .integrity
  | .manifestClosed _ | .registryClosed .. | .overlayOfOpen | .cannotRender _
  | .variantBeforeCommon | .compileBeforeCommon => .general
  | .otherFormat _ | .otherVersion _ | .malformedRecord | .noTypes | .noBindings
  | .cannotCreate _ | .cannotWrite _ | .cannotReadTypes _ | .cannotReadBindings _ => .persistence
  | .missingSide _ | .invalidSetting .. | .cannotReadSettings _ | .settingsNotYaml _
  | .settingsNotMapping _ => .configuration
  | .compileFailed _ => .compilation
  | .stated kind _ => kind

end Problem

end SoapStubs
