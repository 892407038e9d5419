import SoapStubs.FaultResolution
import SoapStubs.Manifest
import SoapStubs.Path
import SoapStubs.Registry

/-!
# Plans and results of generation

What the common phase settles for the variant phases, and what the phases leave behind.

* `Source` is a source to be rendered and `Artifact` one that was rendered;
* `EndpointPlan`, `OperationPlan` and `TypePlan` hold the names that the common phase settled;
* `CommonResult` and `VariantResult` are the results of the phases.
-/

namespace SoapStubs

/-- What a source is for. -/
inductive ArtifactCategory where
  | requestBean
  | responseBean
  | faultBean
  /-- How a type is written. -/
  | typeBinding
  | endpointInterface
  | endpointImpl
  | fault
  | type
  deriving DecidableEq, Repr, Inhabited

/-- The word of a category. -/
def ArtifactCategory.label : ArtifactCategory → String
  | .requestBean => "request-bean"
  | .responseBean => "response-bean"
  | .faultBean => "fault-bean"
  | .typeBinding => "type-binding"
  | .endpointInterface => "endpoint-interface"
  | .endpointImpl => "endpoint-impl"
  | .fault => "fault"
  | .type => "type"

/-- A source to be rendered. -/
structure Source where
  category : ArtifactCategory
  template : String
  identifier : String
  /-- What the template's names stand for, but for the names of run and class. -/
  bindings : List (String × Value)
  /-- The variant it belongs to, if it does not belong to both. -/
  variant : Option Variant := none
  deriving Inhabited

/-- A source that was rendered. -/
structure Artifact where
  category : ArtifactCategory
  template : String
  identifier : String
  path : Path
  /-- The variant it belongs to, if it does not belong to both. -/
  variant : Option Variant := none
  deriving DecidableEq, Repr, Inhabited

/-- The names of an operation. -/
structure OperationPlan where
  methodKey : String
  operation : Operation
  /-- The bean of its last request. -/
  requestBean : Option String := none
  /-- The bean of its last response. -/
  responseBean : Option String := none
  faults : List String := []
  deriving Inhabited

/-- The names of an endpoint. -/
structure EndpointPlan where
  identifier : String
  implIdentifier : String
  endpoint : Endpoint
  operations : List OperationPlan := []
  deriving Inhabited

/-- The names of a type. -/
structure TypePlan where
  identifier : String
  definition : TypeDefinition
  /-- The global element of the type. -/
  rootElement : Option RootElement := none
  deriving Inhabited

/-- What the common phase settles. -/
structure CommonPlan where
  faults : List ResolvedFault := []
  endpoints : List EndpointPlan := []
  types : List TypePlan := []
  deriving Inhabited

/-- The result of the common phase. -/
structure CommonResult where
  runId : String
  manifest : Manifest
  registry : Registry
  plan : CommonPlan
  artifacts : List Artifact
  sourceDir : Path
  deriving Inhabited

/-- The result of a variant phase. -/
structure VariantResult where
  variant : Variant
  registry : Registry
  artifacts : List Artifact
  sourceDir : Path
  deriving Inhabited

end SoapStubs
