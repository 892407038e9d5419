import SoapStubs.Deployment
import SoapStubs.Generation.Bindings
import SoapStubs.Generation.Script

/-!
# The variant phases

What one variant adds to the common result: the interfaces and implementations of the endpoints,
the exceptions of the faults and the classes of the types.

* `endpointSources`, `faultSource` and `typeSource` are the parts of the phase;
* `variantScript` is the whole phase.
-/

namespace SoapStubs

variable (r : Resolver) (v : Variant)

/-- The part of the phase for an endpoint.  Its implementation gets the service descriptor that
the common phase recorded for the endpoint. -/
def endpointSources (d : Deployment) (common : Registry) (plan : EndpointPlan) : Script Unit := do
  let bindings ← Script.lift (endpointBindings r plan v)
  let bindings := bindings ++ [("default_url", .text (d.url plan.endpoint.service.plain))]
  Script.emit {
    category := .endpointInterface, template := "endpoint-interface"
    identifier := plan.identifier, bindings, variant := some v }
  Script.emit {
    category := .endpointImpl, template := "endpoint-impl"
    identifier := plan.implIdentifier, bindings, variant := some v }
  match common.lookup (.text plan.identifier, .service) with
  | none => Script.lift (.error (.bare (Value.null.lacks "kind")))
  | some service => Script.record plan.implIdentifier service

/-- The part of the phase for a fault. -/
def faultSource (f : ResolvedFault) : Script Unit :=
  Script.emit {
    category := .fault, template := "web-fault", identifier := f.identifier
    bindings := [("bean", .text f.carrier), ("implicit", .bool f.isImplicit),
      ("element_name", f.elementName), ("namespace", f.elementNamespace)]
    variant := some v }

/-- The template for the class of a type. -/
def TypeKind.template (k : TypeKind) (v : Variant) : String :=
  match k, v with
  | .enum, .legacy => "legacy-enum-type"
  | .enum, .modern => "modern-enum-type"
  | .simple, _ => "simple-type"
  | .complex, _ => "complex-type"

/-- The part of the phase for a type. -/
def typeSource (plan : TypePlan) : Script Unit := do
  let bindings ← Script.lift (typeBindings r plan v)
  Script.emit {
    category := .type, template := plan.definition.kind.template v
    identifier := plan.identifier, bindings, variant := some v }

/-- A variant phase. -/
def variantScript (d : Deployment) (common : Registry) (plan : CommonPlan) : Script Unit := do
  let _ ← Script.each (endpointSources r v d common) plan.endpoints
  let _ ← Script.each (faultSource v) plan.faults
  let _ ← Script.each (typeSource r v) plan.types
  return ()

end SoapStubs
