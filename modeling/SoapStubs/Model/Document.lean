import SoapStubs.Model
import SoapStubs.Value.Access

/-!
# Models from documents

Reads a service model from the value of a document.  Absent fields have defaults; what is there
is taken as it is, except for enumerations, flags and references to types.

* `TypeRef.ofValue` reads a reference to a type: a name, a name with `[]` behind it for a
  repeated member, or a mapping;
* `Endpoint.ofValue`, `TypeDefinition.ofValue` and `RootElement.ofValue` read the entries of the
  three lists of a document;
* `ServiceModel.ofValue` reads a document and groups the entries by namespace.
-/

namespace SoapStubs

open Value

/-- The flag at a key: does the value there count as true? -/
def Value.flag (v : Value) (key : String) : Except Cause Bool :=
  (v.get key (.bool false)).map Value.truthy

def TypeRef.ofValue : Value → Except Cause (Option TypeRef)
  | .null => .ok none
  | .text s =>
    if Text.endsIn "[]" s then .ok (some ⟨.text (Text.dropEnd 2 s), .bool true⟩)
    else .ok (some ⟨.text s, .bool false⟩)
  | v => do return some ⟨← v.get "qualified_name", .bool (← v.flag "collection")⟩

/-- A binding; what it does not say is taken from the default. -/
def SoapBinding.ofValue (v : Value) (default : SoapBinding := {}) : Except Cause SoapBinding :=
  if !v.truthy then .ok default
  else do
    let style ← Labelled.read (← v.get "style" (Labelled.value default.style))
    let parameterStyle ←
      Labelled.read (← v.get "parameter_style" (Labelled.value default.parameterStyle))
    let use ← Labelled.read (← v.get "use" (Labelled.value default.use))
    return { style, parameterStyle, use }

/-- An element of a message. -/
def ChildElement.ofValue (v : Value) : Except Cause ChildElement := do
  return ⟨← v.need "element_name", ← TypeRef.ofValue (← v.get "type")⟩

/-- The elements of a message; anything that does not count as true stands for none. -/
def ChildElement.listOfValue (v : Value) : Except Cause (List ChildElement) := do
  (← (v.orElse (.list [])).elements).mapM ChildElement.ofValue

/-- A global element. -/
def RootElement.ofValue (v : Value) : Except Cause RootElement := do
  return ⟨← v.get "qualified_name", ← v.need "name", ← v.get "namespace" (.text "")⟩

def Parameter.ofValue (v : Value) : Except Cause Parameter := do
  let elementName ← v.need "element_name"
  let partName ← v.get "part_name" elementName
  let mode ← Labelled.read (← v.get "mode" (.text "in"))
  let header ← v.flag "header"
  let type ← TypeRef.ofValue (← v.get "type")
  return { elementName, partName, mode, header, type }

def Result.ofValue (v : Value) : Except Cause Result := do
  let name ← v.get "name" (.text "return")
  let partName ← v.get "part_name" name
  let targetNamespace ← v.get "target_namespace" (.text "")
  let header ← v.flag "header"
  let type ← TypeRef.ofValue (← v.get "type")
  return { name, partName, targetNamespace, header, type }

/-- What messages take from the operation they belong to. -/
structure MessageScope where
  name : Value
  operationName : Value
  space : Value
  package : String
  parameters : List Parameter
  result : Result

/-- The name of a bean that the document leaves to the generator. -/
def MessageScope.beanName (s : MessageScope) (ending : String) : Except Cause Value := do
  let name ← s.name.capitalized
  return .text ((if s.package = "" then "jaxws." else s.package ++ ".jaxws.") ++ name ++ ending)

def Message.ofValue (s : MessageScope) (v : Value) : Except Cause Message := do
  let kind : MessageKind ← Labelled.read (← v.need "kind")
  let space ← v.get "namespace" s.space
  match kind with
  | .requestWrapper =>
    let elementName ← v.get "element_name" s.operationName
    let beanName ← v.get "bean_name"
    let children ← ChildElement.listOfValue (← v.get "children")
    return .bean { wrapper := .request, elementName, space, beanName, children }
  | .responseWrapper =>
    let elementName ← v.get "element_name" (.text (s.operationName.plain ++ "Response"))
    let beanName ← v.get "bean_name"
    let children ← ChildElement.listOfValue (← v.get "children")
    return .bean { wrapper := .response, elementName, space, beanName, children }
  | .rpcInput =>
    let bean ← v.get "bean_name" (← s.beanName "")
    return .bean (.rpcInput s.operationName space bean s.parameters)
  | .rpcOutput =>
    let bean ← v.get "bean_name" (← s.beanName "Response")
    return .bean (.rpcOutput s.operationName space bean s.result s.parameters)
  | .fault =>
    let explicit ← v.get "explicit_bean"
    let qualifiedName ← v.get "qualified_name"
    let elementName ← v.get "element_name" (.text "")
    let implicitBeanName ← v.get "implicit_bean_name"
    let explicitBean ← if explicit.truthy then some <$> RootElement.ofValue explicit else pure none
    let children ← ChildElement.listOfValue (← v.get "children")
    return .fault
      { qualifiedName, elementName, space, implicitBeanName, explicitBean, children }

/-- An operation of an endpoint. -/
def Operation.ofValue (space : Value) (package : String) (default : SoapBinding) (v : Value) :
    Except Cause Operation := do
  let name ← v.need "name"
  let parameters ← (← (← v.get "parameters" (.list [])).elements).mapM Parameter.ofValue
  let result ← Result.ofValue ((← v.get "result").orElse (.map []))
  let operationName := (← v.get "operation_name").orElse name
  let scope : MessageScope :=
    { name, operationName, space, package, parameters, result }
  let messages ← (← (← v.get "messages" (.list [])).elements).mapM (Message.ofValue scope)
  -- only the messages take the name for one that is missing, the operation leaves it out
  let operationName ← v.get "operation_name"
  let action ← v.get "action" (.text "")
  let oneWay ← v.flag "one_way"
  let binding ← SoapBinding.ofValue (← v.get "binding") default
  return { name, operationName, action, oneWay, binding, parameters, result, messages }

/-- The package of an optional qualified name. -/
def Value.packageOf (v : Value) : Except Cause String :=
  match v with
  | .text s => .ok (Name.package s)
  | _ => if v.truthy then .error v.uncut else .ok ""

def Endpoint.ofValue (v : Value) : Except Cause Endpoint := do
  let space ← v.get "namespace" (.text "")
  let binding ← SoapBinding.ofValue (← v.get "binding")
  let qualifiedName ← v.get "qualified_name"
  let package ← qualifiedName.packageOf
  let operations ← (← (← v.get "operations" (.list [])).elements).mapM
    (Operation.ofValue space package binding)
  let portTypeName ← v.get "port_type_name"
  let serviceName ← v.get "service_name"
  return { qualifiedName, targetNamespace := space, portTypeName, serviceName, binding, operations }

/-- A member of a type. -/
def Member.ofValue (v : Value) : Except Cause Member := do
  let name ← v.need "name"
  let type ← TypeRef.ofValue (← v.get "type")
  return ⟨name, type.getD ⟨.null, .bool false⟩, ← v.flag "attribute"⟩

def TypeDefinition.ofValue (v : Value) : Except Cause TypeDefinition := do
  let qualifiedName ← v.get "qualified_name"
  let space ← v.get "namespace" (.text "")
  let kind ← Labelled.read (← v.get "kind" (.text "complex"))
  let isAbstract ← v.flag "abstract"
  let members ← (← (← v.get "members" (.list [])).elements).mapM Member.ofValue
  let values ← (← v.get "values" (.list [])).elements
  let base ← TypeRef.ofValue (← v.get "base")
  return { qualifiedName, space, kind, isAbstract, members, values, base }

/-- Values read one after another and grouped by a key, the groups in the order of their first
member. -/
def groupM {α : Type} (read : Value → Except Cause α) (key : α → Value) (items : List Value) :
    Except Cause (Ordered Value (List α)) :=
  items.foldlM (fun groups item => do
    let a ← read item
    let k ← (key a).asKey
    return groups.alter k fun found => found.getD [] ++ [a]) []

def ServiceModel.ofValue (v : Value) : Except Cause ServiceModel := do
  let endpoints ← groupM Endpoint.ofValue (·.targetNamespace)
    (← (← v.get "endpoints" (.list [])).elements)
  let types ← groupM TypeDefinition.ofValue (·.space)
    (← (← v.get "types" (.list [])).elements)
  let roots ← groupM RootElement.ofValue (·.space)
    (← (← v.get "root_elements" (.list [])).elements)
  let spaces := Ordered.ofList ((types.keys ++ roots.keys).map fun k => (k, ()))
  return {
    endpointGroups := endpoints
    schemaGroups := spaces.map fun (k, _) =>
      (k, ⟨(types.get? k).getD [], (roots.get? k).getD []⟩) }

end SoapStubs
