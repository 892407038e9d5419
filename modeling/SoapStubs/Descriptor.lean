import SoapStubs.Label
import SoapStubs.Ordered
import SoapStubs.Value.Access

/-!
# Binding descriptors

What a client needs to know to marshal the messages of a generated class or member.

* `Descriptor` has a constructor for each kind of knowledge, `Descriptor.kind` names it;
* `Descriptor.fields` are its fields by name;
* `Descriptor.ofFields` makes one from the fields of a document, `Descriptor.ofArguments` from
  exactly the fields it needs;
* `Descriptor.same` compares two, and `Descriptor.shown` writes one out.
-/

namespace SoapStubs

/-- The kinds of descriptors. -/
inductive DescriptorKind where
  | service
  | soapBinding
  | operation
  | result
  | parameter
  /-- The bean of a request or response. -/
  | wrapper
  | faultMapping
  | rootElement
  | oneWay
  deriving DecidableEq, Repr, Inhabited

namespace DescriptorKind

/-- The word of a kind. -/
def name : DescriptorKind → String
  | .service => "service"
  | .soapBinding => "soap-binding"
  | .operation => "operation"
  | .result => "result"
  | .parameter => "parameter"
  | .wrapper => "wrapper"
  | .faultMapping => "fault-mapping"
  | .rootElement => "root-element"
  | .oneWay => "one-way"

instance : Labelled DescriptorKind :=
  ⟨"DescriptorKind", [.service, .soapBinding, .operation, .result, .parameter, .wrapper,
    .faultMapping, .rootElement, .oneWay], name⟩

def typeName : DescriptorKind → String
  | .service => "ServiceDescriptor"
  | .soapBinding => "SoapBindingDescriptor"
  | .operation => "OperationDescriptor"
  | .result => "ResultDescriptor"
  | .parameter => "ParameterDescriptor"
  | .wrapper => "WrapperDescriptor"
  | .faultMapping => "FaultMappingDescriptor"
  | .rootElement => "RootElementDescriptor"
  | .oneWay => "OneWayDescriptor"

end DescriptorKind

/-- What a client needs to know about a generated class or member. -/
inductive Descriptor where
  | service (name portName serviceName targetNamespace : Value)
  | soapBinding (style parameterStyle use : Value)
  /-- An operation with its name on the wire, its action and the beans of its messages. -/
  | operation (operationName action requestWrapper responseWrapper : Value)
  | result (name partName targetNamespace header : Value)
  | parameter (name partName mode header : Value)
  /-- The bean of a request or response; the order of its properties is that of the message. -/
  | wrapper (elementName space direction method propertyOrder : Value)
  /-- A fault with its element and its carrier. -/
  | faultMapping (elementName space bean implicit : Value)
  | rootElement (name space : Value)
  /-- An operation without a response. -/
  | oneWay
  deriving Inhabited

namespace Descriptor

def kind : Descriptor → DescriptorKind
  | .service .. => .service
  | .soapBinding .. => .soapBinding
  | .operation .. => .operation
  | .result .. => .result
  | .parameter .. => .parameter
  | .wrapper .. => .wrapper
  | .faultMapping .. => .faultMapping
  | .rootElement .. => .rootElement
  | .oneWay => .oneWay

/-- The fields by name, as they are kept. -/
def entries : Descriptor → List (String × Value)
  | .service name portName serviceName targetNamespace =>
    [("name", name), ("port_name", portName), ("service_name", serviceName),
      ("target_namespace", targetNamespace)]
  | .soapBinding style parameterStyle use =>
    [("style", style), ("parameter_style", parameterStyle), ("use", use)]
  | .operation operationName action requestWrapper responseWrapper =>
    [("operation_name", operationName), ("action", action), ("request_wrapper", requestWrapper),
      ("response_wrapper", responseWrapper)]
  | .result name partName targetNamespace header =>
    [("name", name), ("part_name", partName), ("target_namespace", targetNamespace),
      ("header", header)]
  | .parameter name partName mode header =>
    [("name", name), ("part_name", partName), ("mode", mode), ("header", header)]
  | .wrapper elementName space direction method propertyOrder =>
    [("element_name", elementName), ("namespace", space), ("direction", direction),
      ("operation", method), ("property_order", propertyOrder)]
  | .faultMapping elementName space bean implicit =>
    [("element_name", elementName), ("namespace", space), ("bean", bean), ("implicit", implicit)]
  | .rootElement name space => [("name", name), ("namespace", space)]
  | .oneWay => []

/-- A tuple as a list; any other value as it is. -/
def thaw : Value → Value
  | .tuple items => .list items
  | v => v

/-- A list as a tuple; any other value as it is. -/
def freeze : Value → Value
  | .list items => .tuple items
  | v => v

/-- The fields by name, as they are written to documents. -/
def fields (d : Descriptor) : List (String × Value) := d.entries.map fun (k, v) => (k, thaw v)

/-- Have the descriptors the same kind and equal fields? -/
def same (d e : Descriptor) : Bool :=
  d.kind == e.kind && Value.equalsList (d.entries.map Prod.snd) (e.entries.map Prod.snd)

instance : BEq Descriptor := ⟨same⟩

/-- The descriptor as the call that makes it. -/
def shown (d : Descriptor) : String :=
  d.kind.typeName ++ "(" ++
    Text.join ", " (d.entries.map fun (k, v) => k ++ "=" ++ v.quoted) ++ ")"

/-! ### Making descriptors -/

/-- The descriptor of a kind with fields that are looked up by name. -/
def build {m : Type → Type} [Monad m] (look : String → m Value) :
    DescriptorKind → m Descriptor
  | .service => do
    return .service (← look "name") (← look "port_name") (← look "service_name")
      (← look "target_namespace")
  | .soapBinding => do
    return .soapBinding (← look "style") (← look "parameter_style") (← look "use")
  | .operation => do
    return .operation (← look "operation_name") (← look "action") (← look "request_wrapper")
      (← look "response_wrapper")
  | .result => do
    return .result (← look "name") (← look "part_name") (← look "target_namespace")
      (← look "header")
  | .parameter => do
    return .parameter (← look "name") (← look "part_name") (← look "mode") (← look "header")
  | .wrapper => do
    return .wrapper (← look "element_name") (← look "namespace") (← look "direction")
      (← look "operation") (← look "property_order")
  | .faultMapping => do
    return .faultMapping (← look "element_name") (← look "namespace") (← look "bean")
      (← look "implicit")
  | .rootElement => do
    return .rootElement (← look "name") (← look "namespace")
  | .oneWay => return .oneWay

def fieldNames (kind : DescriptorKind) : List String :=
  (Id.run (build (fun _ => pure .null) kind)).entries.map Prod.fst

/-- Fields that need not be given. -/
def optionalFields : List String := ["request_wrapper", "response_wrapper"]

/-- The value of a field in a document; lists become tuples. -/
def lookIn (payload : Value) (name : String) : Except Cause Value :=
  match payload with
  | .map _ =>
    match payload.field? name with
    | some v => .ok (freeze v)
    | none => if optionalFields.contains name then .ok .null else .error (.missingKey (.text name))
  | .text _ | .list _ | .tuple _ => payload.need name
  | v => .error (.wrongType ("argument of type '" ++ v.fullTypeName ++ "' is not iterable"))

/-- The descriptor of a kind with the fields of a document. -/
def ofFields (kind : DescriptorKind) (payload : Value) : Except Cause Descriptor :=
  build (lookIn payload) kind

/-- The value of a field among arguments. -/
def lookAmong (arguments : List (String × Value)) (name : String) : Except Cause Value :=
  match Ordered.get? arguments name with
  | none =>
    if optionalFields.contains name then .ok .null
    else .error (.wrongType ("missing a required keyword-only argument: '" ++ name ++ "'"))
  | some v => if name == "property_order" then v.elements.map .tuple else .ok v

/-- The descriptor of a kind with exactly the arguments it needs. -/
def ofArguments (kind : DescriptorKind) (arguments : List (String × Value)) :
    Except Cause Descriptor :=
  match arguments.find? fun a => !(fieldNames kind).contains a.1 with
  | some a => .error (.wrongType ("got an unexpected keyword argument '" ++ a.1 ++ "'"))
  | none => build (lookAmong arguments) kind

end Descriptor

end SoapStubs
