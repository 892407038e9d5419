import SoapStubs.Generation.Bindings
import SoapStubs.Generation.Script

/-!
# The common phase

What both variants share: names, faults, binding metadata, the beans of messages and the bindings
of types.  The phase goes through the endpoints with their operations and messages, then through
the faults that were found on the way, then through the types and the global elements.

* `operationScript` is the part for an operation, `endpointScript` for an endpoint, `faultScript`
  for a fault, `typeScript` for a type and `rootScript` for a global element;
* `commonScript` is the whole phase.
-/

namespace SoapStubs

/-- The beans of the messages of an operation: the last of each direction. -/
structure Beans where
  /-- The bean of the last request. -/
  request : Option String := none
  /-- The bean of the last response. -/
  response : Option String := none
  deriving DecidableEq, Repr, Inhabited

/-- The beans with one more. -/
def Beans.add (b : Beans) (w : Wrapper) (bean : String) : Beans :=
  if w.isRequest then { b with request := some bean } else { b with response := some bean }

/-- The direction of a message. -/
def Wrapper.direction (w : Wrapper) : String := if w.isRequest then "request" else "response"

def SoapBinding.descriptor (b : SoapBinding) : Descriptor :=
  .soapBinding (Labelled.value b.style) (Labelled.value b.parameterStyle) (Labelled.value b.use)

/-- The descriptor of an endpoint's service. -/
def Endpoint.descriptor (e : Endpoint) : Descriptor :=
  .service e.portType (.text (e.simpleName ++ "SOAPPort")) e.service e.targetNamespace

def Result.descriptor (r : Result) : Descriptor :=
  .result r.name r.partName r.targetNamespace (.bool r.header)

def Parameter.descriptor (p : Parameter) : Descriptor :=
  .parameter p.elementName p.partName (Labelled.value p.mode) (.bool p.header)

def BeanMessage.descriptor (m : BeanMessage) (methodKey : String) : Descriptor :=
  .wrapper m.elementName m.space (.text m.wrapper.direction) (.text methodKey)
    (.tuple (m.children.map (·.elementName)))

def ResolvedFault.descriptor (f : ResolvedFault) : Descriptor :=
  .faultMapping f.elementName f.elementNamespace (.text f.carrier) (.bool f.isImplicit)

variable (r : Resolver)

/-- The part of the phase for a message's bean: it is declared, described and rendered. -/
def beanScript (methodKey : String) (m : BeanMessage) : Script String := do
  if !m.beanName.truthy then
    Script.lift (.error (.of (.noBean m.wrapper.typeName m.elementName.plain)
      [("entity", .text methodKey)]))
  else
    let bean ← Script.lift (r.resolve m.beanName)
    Script.declare bean m.beanName.plain
    Script.record bean (m.descriptor methodKey)
    let properties ← Script.lift (propertyBindings r m.children .legacy)
    Script.emit {
      category := if m.wrapper.isRequest then .requestBean else .responseBean
      template := if m.wrapper.isRequest then "request-bean" else "response-bean"
      identifier := bean
      bindings := [("operation", .text methodKey), ("element_name", m.elementName),
        ("namespace", m.space), ("properties", properties)] }
    return bean

/-- What the messages of an operation lead to. -/
structure MessageOutcome where
  beans : Beans := {}
  /-- The identifiers of the faults, each once. -/
  faults : List String := []
  deriving Inhabited

/-- The part of the phase for the messages of an operation. -/
def messagesScript (methodKey : String) (found : MessageOutcome) :
    List Message → Script MessageOutcome
  | [] => pure found
  | .fault f :: rest => do
    let identifier ← Script.lift (r.resolve f)
    let faults := if found.faults.contains identifier then found.faults
      else found.faults ++ [identifier]
    messagesScript methodKey { found with faults } rest
  | .bean m :: rest => do
    let bean ← beanScript r methodKey m
    messagesScript methodKey { found with beans := found.beans.add m.wrapper bean } rest

/-- The part of the phase for the parameters of an operation, numbered from `i`. -/
def parametersScript (methodKey : String) : (i : Nat) → List Parameter → Script Unit
  | _, [] => pure ()
  | i, p :: rest => do
    Script.record (methodKey ++ "." ++ toString i) p.descriptor
    parametersScript methodKey (i + 1) rest

/-- The part of the phase for an operation. -/
def operationScript (endpoint : String) (o : Operation) : Script OperationPlan := do
  let methodKey := endpoint ++ "." ++ o.name.plain
  let found ← messagesScript r methodKey {} o.messages
  Script.record methodKey o.binding.descriptor
  Script.record methodKey
    (.operation o.wireName o.action (.ofOption found.beans.request)
      (.ofOption found.beans.response))
  Script.record methodKey o.result.descriptor
  if o.oneWay then Script.record methodKey .oneWay
  parametersScript methodKey 0 o.parameters
  return { methodKey, operation := o, requestBean := found.beans.request
           responseBean := found.beans.response, faults := found.faults }

/-- The part of the phase for an endpoint. -/
def endpointScript (e : Endpoint) : Script EndpointPlan := do
  let identifier ← Script.lift (r.resolve e)
  Script.record identifier e.descriptor
  Script.record identifier e.binding.descriptor
  let operations ← Script.each (operationScript r identifier) e.operations
  return { identifier, implIdentifier := identifier ++ "Impl", endpoint := e, operations }

/-- The part of the phase for the bean of an implicit fault. -/
def carrierScript (f : ResolvedFault) : Script Unit := do
  Script.declare f.carrier f.fault.implicitBeanName.plain
  let properties ← Script.lift (propertyBindings r f.fault.children .legacy)
  Script.emit {
    category := .faultBean, template := "fault-bean", identifier := f.carrier
    bindings := [("fault", .text f.identifier), ("element_name", f.elementName),
      ("namespace", f.elementNamespace), ("properties", properties)] }

/-- The part of the phase for a fault. -/
def faultScript (f : ResolvedFault) : Script Unit := do
  if f.isImplicit then carrierScript r f
  Script.record f.identifier f.descriptor

def TypeKind.bindingTemplate : TypeKind → String
  | .enum => "enum-type-binding"
  | .simple => "simple-type-binding"
  | .complex => "complex-type-binding"

/-- The class of a type's binding. -/
def bindingIdentifier (identifier : String) : String :=
  Name.qualify (Name.package identifier) (Name.simple identifier ++ "TypeBinding")

/-- The part of the phase for a type. -/
def typeScript (m : ServiceModel) (t : TypeDefinition) : Script TypePlan := do
  let identifier ← Script.lift (r.resolve t)
  let plan : TypePlan := ⟨identifier, t, m.rootElementOf t⟩
  if !t.isAbstract then Script.declare identifier t.qualifiedName.plain
  let bindings ← Script.lift (typeBindings r plan .legacy)
  Script.emit {
    category := .typeBinding, template := t.kind.bindingTemplate
    identifier := bindingIdentifier identifier
    bindings := bindings ++ [("type_identifier", .text identifier)] }
  return plan

/-- The part of the phase for a global element. -/
def rootScript (e : RootElement) : Script Unit := do
  let identifier ← Script.lift (r.resolve e)
  Script.record identifier (.rootElement e.name e.space)

/-- The faults that the operations of a model throw, in the order of the model. -/
def ServiceModel.faults (m : ServiceModel) : List Fault :=
  m.endpoints.flatMap fun e => e.operations.flatMap fun o => o.messages.filterMap Message.fault?

/-- The common phase. -/
def commonScript (m : ServiceModel) : Script CommonPlan := do
  let endpoints ← Script.each (endpointScript r) m.endpoints
  let faults ← Script.logged (resolveFaultsLogged r m.faults)
  let _ ← Script.each (faultScript r) faults
  let types ← Script.each (typeScript r m) m.types
  let _ ← Script.each (rootScript r) m.rootElements
  return { faults, endpoints, types }

end SoapStubs
