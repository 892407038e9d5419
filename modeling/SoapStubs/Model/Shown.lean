import SoapStubs.Conversion
import SoapStubs.Model

/-!
# Model entities written out

The entities of the model as the calls that make them, with all their fields.  Errors about an
entity without a name show it in this form.
-/

namespace SoapStubs

def callText (name : String) (arguments : List (String × String)) : String :=
  name ++ "(" ++ Text.join ", " (arguments.map fun (k, v) => k ++ "=" ++ v) ++ ")"

/-- Written items as a tuple. -/
def tupleText (items : List String) : String :=
  "(" ++ Text.join ", " items ++ (if items.length == 1 then ",)" else ")")

/-- A truth value written out. -/
def boolText (b : Bool) : String := (Value.bool b).quoted

/-- An optional entity written out. -/
def optionText {α : Type} (shown : α → String) : Option α → String
  | none => "None"
  | some a => shown a

/-- The binding written out. -/
def SoapBinding.shown (b : SoapBinding) : String :=
  callText "SoapBinding" [("style", Labelled.shown b.style),
    ("parameter_style", Labelled.shown b.parameterStyle), ("use", Labelled.shown b.use)]

/-- The reference written out. -/
def TypeRef.shown (r : TypeRef) : String :=
  callText "TypeRef"
    [("qualified_name", r.qualifiedName.quoted), ("collection", r.collection.quoted)]

/-- The element written out. -/
def ChildElement.shown (c : ChildElement) : String :=
  callText "ChildElement"
    [("element_name", c.elementName.quoted), ("type", optionText TypeRef.shown c.type)]

/-- The global element written out. -/
def RootElement.shown (e : RootElement) : String :=
  callText "RootElementDeclaration" [("qualified_name", e.qualifiedName.quoted),
    ("name", e.name.quoted), ("namespace", e.space.quoted)]

/-- The parameter written out. -/
def Parameter.shown (p : Parameter) : String :=
  callText "Parameter" [("element_name", p.elementName.quoted), ("part_name", p.partName.quoted),
    ("mode", Labelled.shown p.mode), ("header", boolText p.header),
    ("type", optionText TypeRef.shown p.type)]

/-- The result written out. -/
def Result.shown (r : Result) : String :=
  callText "Result" [("name", r.name.quoted), ("part_name", r.partName.quoted),
    ("target_namespace", r.targetNamespace.quoted), ("header", boolText r.header),
    ("type", optionText TypeRef.shown r.type)]

/-- The bean message written out. -/
def BeanMessage.shown (m : BeanMessage) : String :=
  callText m.wrapper.typeName [("element_name", m.elementName.quoted),
    ("namespace", m.space.quoted), ("bean_name", m.beanName.quoted),
    ("children", tupleText (m.children.map ChildElement.shown))]

/-- The fault written out. -/
def Fault.shown (f : Fault) : String :=
  callText "Fault" [("qualified_name", f.qualifiedName.quoted),
    ("element_name", f.elementName.quoted), ("namespace", f.space.quoted),
    ("implicit_bean_name", f.implicitBeanName.quoted),
    ("explicit_bean", optionText RootElement.shown f.explicitBean),
    ("children", tupleText (f.children.map ChildElement.shown))]

/-- The message written out. -/
def Message.shown : Message → String
  | .bean m => m.shown
  | .fault f => f.shown

/-- The operation written out. -/
def Operation.shown (o : Operation) : String :=
  callText "Operation" [("name", o.name.quoted), ("operation_name", o.operationName.quoted),
    ("action", o.action.quoted), ("one_way", boolText o.oneWay), ("binding", o.binding.shown),
    ("parameters", tupleText (o.parameters.map Parameter.shown)), ("result", o.result.shown),
    ("messages", tupleText (o.messages.map Message.shown))]

/-- The endpoint written out. -/
def Endpoint.shown (e : Endpoint) : String :=
  callText "Endpoint" [("qualified_name", e.qualifiedName.quoted),
    ("target_namespace", e.targetNamespace.quoted), ("port_type_name", e.portTypeName.quoted),
    ("service_name", e.serviceName.quoted), ("binding", e.binding.shown),
    ("operations", tupleText (e.operations.map Operation.shown))]

/-- The member written out. -/
def Member.shown (m : Member) : String :=
  callText "Member"
    [("name", m.name.quoted), ("type", m.type.shown), ("attribute", boolText m.isAttribute)]

/-- The type written out. -/
def TypeDefinition.shown (t : TypeDefinition) : String :=
  callText "TypeDefinition" [("qualified_name", t.qualifiedName.quoted),
    ("namespace", t.space.quoted), ("kind", Labelled.shown t.kind),
    ("abstract", boolText t.isAbstract), ("members", tupleText (t.members.map Member.shown)),
    ("values", (Value.tuple t.values).quoted), ("base", optionText TypeRef.shown t.base)]

instance : Named TypeRef := ⟨fun _ => "TypeRef", TypeRef.shown, TypeRef.qualifiedName⟩

instance : Named RootElement :=
  ⟨fun _ => "RootElementDeclaration", RootElement.shown, RootElement.qualifiedName⟩

instance : Named Fault := ⟨fun _ => "Fault", Fault.shown, Fault.qualifiedName⟩

instance : Named Endpoint := ⟨fun _ => "Endpoint", Endpoint.shown, Endpoint.qualifiedName⟩

instance : Named TypeDefinition :=
  ⟨fun _ => "TypeDefinition", TypeDefinition.shown, TypeDefinition.qualifiedName⟩

end SoapStubs
