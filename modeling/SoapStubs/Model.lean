import SoapStubs.Label
import SoapStubs.Name
import SoapStubs.Ordered

/-!
# The service model

What a service offers: endpoints with their operations and messages, and the schema types and
global elements they use, grouped by namespace.  Names come from documents as they are, so they
are values; where a name is needed as text, the code that needs it says so.

* `Endpoint`, `Operation`, `Message` and `Fault` describe what can be called;
* `TypeDefinition`, `Member` and `RootElement` describe the data;
* `ServiceModel` holds all of them by namespace.
-/

namespace SoapStubs

/-! ### Bindings -/

/-- The style of a binding. -/
inductive BindingStyle where
  | document
  | rpc
  deriving DecidableEq, Repr, Inhabited

instance : Labelled BindingStyle where
  typeName := "BindingStyle"
  members := [.document, .rpc]
  label
    | .document => "document"
    | .rpc => "rpc"

/-- How parameters are put into messages. -/
inductive ParameterStyle where
  | wrapped
  | bare
  deriving DecidableEq, Repr, Inhabited

instance : Labelled ParameterStyle where
  typeName := "ParameterStyle"
  members := [.wrapped, .bare]
  label
    | .wrapped => "wrapped"
    | .bare => "bare"

/-- How data is encoded. -/
inductive BindingUse where
  | literal
  | encoded
  deriving DecidableEq, Repr, Inhabited

instance : Labelled BindingUse where
  typeName := "BindingUse"
  members := [.literal, .encoded]
  label
    | .literal => "literal"
    | .encoded => "encoded"

/-- Style, parameter style and use of a binding. -/
structure SoapBinding where
  style : BindingStyle := .document
  parameterStyle : ParameterStyle := .wrapped
  use : BindingUse := .literal
  deriving DecidableEq, Repr, Inhabited

/-! ### Types and elements -/

/-- A reference to the type of a member; of a repeated one, to the type of its elements. -/
structure TypeRef where
  qualifiedName : Value
  /-- The mark of a repeated member: a value that counts as true. -/
  collection : Value := .bool false
  deriving Inhabited

/-- Is the member repeated? -/
def TypeRef.isCollection (r : TypeRef) : Bool := r.collection.truthy

/-- An element of a message. -/
structure ChildElement where
  elementName : Value
  type : Option TypeRef := none
  deriving Inhabited

/-- A global element, bound to the class that `qualifiedName` names. -/
structure RootElement where
  qualifiedName : Value
  name : Value
  space : Value := .text ""
  deriving Inhabited

/-! ### Operations -/

/-- Which way a parameter travels. -/
inductive ParameterMode where
  | request
  | response
  | both
  deriving DecidableEq, Repr, Inhabited

instance : Labelled ParameterMode where
  typeName := "ParameterMode"
  members := [.request, .response, .both]
  label
    | .request => "in"
    | .response => "out"
    | .both => "inout"

/-- A parameter of an operation. -/
structure Parameter where
  elementName : Value
  partName : Value := .null
  mode : ParameterMode := .request
  /-- Does it travel in a header? -/
  header : Bool := false
  type : Option TypeRef := none
  deriving Inhabited

/-- The result of an operation. -/
structure Result where
  name : Value := .text "return"
  partName : Value := .text "return"
  targetNamespace : Value := .text ""
  /-- Does it travel in a header? -/
  header : Bool := false
  /-- Its type; a result without a type is void. -/
  type : Option TypeRef := none
  deriving Inhabited

def Result.isVoid (r : Result) : Bool := r.type.isNone

/-! ### Messages -/

/-- What a message is. -/
inductive MessageKind where
  | requestWrapper
  | responseWrapper
  | rpcInput
  | rpcOutput
  | fault
  deriving DecidableEq, Repr, Inhabited

instance : Labelled MessageKind where
  typeName := "MessageKind"
  members := [.requestWrapper, .responseWrapper, .rpcInput, .rpcOutput, .fault]
  label
    | .requestWrapper => "request-wrapper"
    | .responseWrapper => "response-wrapper"
    | .rpcInput => "rpc-input"
    | .rpcOutput => "rpc-output"
    | .fault => "fault"

/-- The messages that are carried by a generated bean. -/
inductive Wrapper where
  /-- The element that wraps a request. -/
  | request
  /-- The element that wraps a response. -/
  | response
  /-- The input of a call, in the shape of a request. -/
  | rpcInput
  /-- The output of a call, in the shape of a response. -/
  | rpcOutput
  deriving DecidableEq, Repr, Inhabited

namespace Wrapper

def kind : Wrapper → MessageKind
  | .request => .requestWrapper
  | .response => .responseWrapper
  | .rpcInput => .rpcInput
  | .rpcOutput => .rpcOutput

/-- The name of the type of message. -/
def typeName : Wrapper → String
  | .request => "RequestWrapper"
  | .response => "ResponseWrapper"
  | .rpcInput => "RPCInputMessage"
  | .rpcOutput => "RPCOutputMessage"

/-- Does the message travel to the service? -/
def isRequest : Wrapper → Bool
  | .request | .rpcInput => true
  | .response | .rpcOutput => false

end Wrapper

/-- A message that is carried by a generated bean. -/
structure BeanMessage where
  wrapper : Wrapper
  elementName : Value
  space : Value
  beanName : Value
  children : List ChildElement := []
  deriving Inhabited

/-- A fault of an operation.  Its carrier is an element that the model declares, or a bean that
is generated under `implicitBeanName`. -/
structure Fault where
  qualifiedName : Value
  elementName : Value
  space : Value
  /-- The name of the bean to generate. -/
  implicitBeanName : Value := .null
  explicitBean : Option RootElement := none
  children : List ChildElement := []
  deriving Inhabited

/-- Is the carrier to be generated? -/
def Fault.isImplicit (f : Fault) : Bool := f.explicitBean.isNone

/-- A message of an operation. -/
inductive Message where
  /-- One that is carried by a generated bean. -/
  | bean (m : BeanMessage)
  | fault (f : Fault)
  deriving Inhabited

def Message.bean? : Message → Option BeanMessage
  | .bean m => some m
  | .fault _ => none

def Message.fault? : Message → Option Fault
  | .bean _ => none
  | .fault f => some f

namespace BeanMessage

/-- The input of a call: its parameters that travel with the request, but for headers. -/
def rpcInput (operation space bean : Value) (parameters : List Parameter) : BeanMessage :=
  { wrapper := .rpcInput, elementName := operation, space, beanName := bean
    children := (parameters.filter fun p => !p.header && p.mode != .response).map fun p =>
      ⟨p.elementName, p.type⟩ }

/-- The output of a call: its result, then its parameters that travel with the response, but for
headers. -/
def rpcOutput (operation space bean : Value) (result : Result) (parameters : List Parameter) :
    BeanMessage :=
  { wrapper := .rpcOutput, elementName := .text (operation.plain ++ "Response")
    space, beanName := bean
    children :=
      (if result.isVoid || result.header then [] else [⟨result.name, result.type⟩]) ++
      (parameters.filter fun p => !p.header && p.mode != .request).map fun p =>
        ⟨p.elementName, p.type⟩ }

end BeanMessage

/-! ### Endpoints -/

/-- An operation of an endpoint. -/
structure Operation where
  name : Value
  /-- The name on the wire, if it is another one. -/
  operationName : Value := .null
  action : Value := .text ""
  oneWay : Bool := false
  binding : SoapBinding := {}
  parameters : List Parameter := []
  result : Result := {}
  messages : List Message := []
  deriving Inhabited

def Operation.wireName (o : Operation) : Value := o.operationName.orElse o.name

/-- An endpoint of a service. -/
structure Endpoint where
  /-- The name of the endpoint's interface. -/
  qualifiedName : Value
  targetNamespace : Value
  /-- The name of its port type, if it has one of its own. -/
  portTypeName : Value := .null
  /-- The name of its service, if it has one of its own. -/
  serviceName : Value := .null
  binding : SoapBinding := {}
  operations : List Operation := []
  deriving Inhabited

namespace Endpoint

/-- The name of the interface as text. -/
def nameText (e : Endpoint) : String := e.qualifiedName.text?.getD ""

/-- The simple name of the interface. -/
def simpleName (e : Endpoint) : String := Name.simple e.nameText

/-- The package of the interface. -/
def package (e : Endpoint) : String := Name.package e.nameText

def portType (e : Endpoint) : Value := e.portTypeName.orElse (.text e.simpleName)

def service (e : Endpoint) : Value := e.serviceName.orElse (.text (e.simpleName ++ "Service"))

end Endpoint

/-! ### Schema types -/

/-- What a type is. -/
inductive TypeKind where
  | enum
  | simple
  | complex
  deriving DecidableEq, Repr, Inhabited

instance : Labelled TypeKind where
  typeName := "TypeKind"
  members := [.enum, .simple, .complex]
  label
    | .enum => "enum"
    | .simple => "simple"
    | .complex => "complex"

/-- A member of a type. -/
structure Member where
  name : Value
  type : TypeRef
  isAttribute : Bool := false
  deriving Inhabited

/-- A type of the schema. -/
structure TypeDefinition where
  qualifiedName : Value
  space : Value
  kind : TypeKind := .complex
  isAbstract : Bool := false
  members : List Member := []
  values : List Value := []
  base : Option TypeRef := none
  deriving Inhabited

/-- The types and global elements of a namespace. -/
structure SchemaGroup where
  types : List TypeDefinition := []
  rootElements : List RootElement := []
  deriving Inhabited

/-- The model of a service. -/
structure ServiceModel where
  endpointGroups : Ordered Value (List Endpoint) := []
  /-- The types and elements by namespace. -/
  schemaGroups : Ordered Value SchemaGroup := []
  deriving Inhabited

namespace ServiceModel

def endpoints (m : ServiceModel) : List Endpoint := m.endpointGroups.values.flatten

def types (m : ServiceModel) : List TypeDefinition := m.schemaGroups.values.flatMap (·.types)

/-- All global elements, group by group. -/
def rootElements (m : ServiceModel) : List RootElement :=
  m.schemaGroups.values.flatMap (·.rootElements)

/-- The global element declared for a type, if there is one. -/
def rootElementOf (m : ServiceModel) (t : TypeDefinition) : Option RootElement :=
  match t.qualifiedName with
  | .null => none
  | name => m.rootElements.find? (·.qualifiedName == name)

end ServiceModel

end SoapStubs
