import SoapStubs.Conversion.Member
import SoapStubs.Generation.Plan

/-!
# Bindings of templates

What the names of the templates stand for, by kind of source.

* `propertyBindings` are the elements of a message, `memberBindings` the members of a type;
* `typeBindings` are for sources of types and `endpointBindings` for those of endpoints.
-/

namespace SoapStubs

/-- The type of values that nothing is known about. -/
def untyped : String := "java.lang.Object"

variable (r : Resolver)

/-- The type of a value; without a type it may be anything. -/
def valueType (ref : Option TypeRef) (v : Variant) : Except Failure String :=
  match ref with
  | none => .ok untyped
  | some ref => r.resolveType (some ref) v

def optionalText (s : Option String) : Value := .ofOption s

/-- An element of a message. -/
def propertyBinding (v : Variant) (c : ChildElement) : Except Failure Value := do
  return .record [("name", c.elementName), ("type", .text (← valueType r c.type v)),
    ("collection", .bool ((c.type.map (·.isCollection)).getD false))]

/-- The elements of a message. -/
def propertyBindings (children : List ChildElement) (v : Variant) : Except Failure Value := do
  return .list (← children.mapM (propertyBinding r v))

/-- A member of a type. -/
def memberBinding (v : Variant) (m : Member) : Except Failure Value := do
  let type ← r.resolveType (some m.type) v
  let component ←
    if m.type.isCollection then (r.resolveElement m.type v).map Value.text else .ok .null
  return .record [("name", m.name), ("type", .text type), ("component_type", component),
    ("collection", m.type.collection), ("attribute", .bool m.isAttribute)]

/-- A global element. -/
def rootBinding : Option RootElement → Value
  | none => .null
  | some e => .record [("name", e.name), ("namespace", e.space)]

def baseBinding : Option TypeRef → Except Failure Value
  | none => .ok .null
  | some ref => (r.resolve ref).map .text

/-- The names of sources of types. -/
def typeBindings (plan : TypePlan) (v : Variant) : Except Failure (List (String × Value)) := do
  let t := plan.definition
  let members ← t.members.mapM (memberBinding r v)
  let base ← baseBinding r t.base
  return [("namespace", t.space), ("kind", Labelled.value t.kind), ("abstract", .bool t.isAbstract),
    ("base", base), ("root_element", rootBinding plan.rootElement), ("members", .list members),
    ("values", .list t.values), ("variant", .text v.name)]

/-- A parameter of an operation. -/
def parameterBinding (v : Variant) (p : Parameter) : Except Failure Value := do
  return .record [("name", p.elementName), ("type", .text (← valueType r p.type v))]

/-- An operation of an endpoint. -/
def operationBinding (v : Variant) (plan : OperationPlan) : Except Failure Value := do
  let o := plan.operation
  let returnType ← r.resolveType o.result.type v
  let parameters ← o.parameters.mapM (parameterBinding r v)
  return .record [("name", o.name), ("operation_name", o.wireName), ("action", o.action),
    ("one_way", .bool o.oneWay), ("request_bean", optionalText plan.requestBean),
    ("response_bean", optionalText plan.responseBean), ("return_type", .text returnType),
    ("parameters", .list parameters), ("faults", .texts plan.faults)]

/-- The names of sources of endpoints. -/
def endpointBindings (plan : EndpointPlan) (v : Variant) :
    Except Failure (List (String × Value)) := do
  let e := plan.endpoint
  let operations ← plan.operations.mapM (operationBinding r v)
  return [("class_name", .text (Name.simple plan.identifier)),
    ("impl_class_name", .text (Name.simple plan.implIdentifier)),
    ("target_namespace", e.targetNamespace), ("port_type", e.portType),
    ("service_name", e.service), ("variant", .text v.name), ("operations", .list operations)]

end SoapStubs
