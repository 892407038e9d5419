import Mathlib.Tactic.MkIffOfInductiveProp
import SoapStubs.Model

/-!
# Typed models

The entities of a model take their names from documents as they are.  A model is *typed* if every
name that has to be there is a text, every name that may be missing is a text or null, and every
mark is a truth value.

* `Value.IsText`, `Value.IsName` and `Value.IsMark` are the three sorts of values, and
  `Value.nameText` is the text of a name, where a missing name counts as the empty one;
* `Fault.Typed`, `Endpoint.Typed`, `TypeDefinition.Typed` and their parts say that an entity is
  typed, `ServiceModel.Typed` that all entities are.
-/

namespace SoapStubs

/-! ### Values -/

namespace Value

/-- The value is a text. -/
def IsText (v : Value) : Prop :=
  (match v with
    | .text _ => true
    | _ => false) = true

/-- The value is a text, or null. -/
def IsName (v : Value) : Prop :=
  (match v with
    | .null | .text _ => true
    | _ => false) = true

/-- The value is a truth value. -/
def IsMark (v : Value) : Prop :=
  (match v with
    | .bool _ => true
    | _ => false) = true

instance : DecidablePred IsText := fun _ => instDecidableEqBool _ _

instance : DecidablePred IsName := fun _ => instDecidableEqBool _ _

instance : DecidablePred IsMark := fun _ => instDecidableEqBool _ _

/-- The text of a name; a missing name counts as the empty text. -/
def nameText (v : Value) : String := v.text?.getD ""

variable {v w : Value}

theorem isText_text (s : String) : (Value.text s).IsText := rfl

theorem IsText.eq (h : v.IsText) : v = .text v.nameText := by cases v <;> first | rfl | cases h

theorem IsText.isName (h : v.IsText) : v.IsName := by cases v <;> first | rfl | cases h

theorem IsMark.eq (h : v.IsMark) : v = .bool v.truthy := by cases v <;> first | rfl | cases h

theorem IsName.eq (h : v.IsName) : v = .null ∨ v = .text v.nameText := by
  cases v <;> first | exact .inl rfl | exact .inr rfl | cases h

theorem IsName.eq_text (h : v.IsName) (hv : v.nameText ≠ "") : v = .text v.nameText :=
  h.eq.resolve_left fun he => hv (by rw [he]; rfl)

theorem IsName.isText (h : v.IsName) (hv : v ≠ .null) : v.IsText := by
  rcases h.eq with rfl | he
  · exact absurd rfl hv
  · rw [he]
    rfl

theorem IsName.truthy (h : v.IsName) : v.truthy = (v.nameText != "") := by
  rcases h.eq with rfl | he
  · rfl
  · rw [he]
    rfl

theorem IsName.orElse_empty (h : v.IsName) : v.orElse (.text "") = .text v.nameText := by
  rcases h.eq with rfl | he
  · rfl
  · by_cases hs : v.nameText = ""
    · rw [he, hs]
      rfl
    · rw [orElse, h.truthy, if_pos (by simpa using hs)]
      exact he

theorem IsText.beq_iff (hv : v.IsText) (hw : w.IsText) : (v == w) = true ↔ v = w := by
  rw [hv.eq, hw.eq]
  show (v.nameText == w.nameText) = true ↔ _
  simp

end Value

/-! ### Types and elements -/

/-- The name and the mark of a reference are typed. -/
@[mk_iff]
structure TypeRef.Typed (r : TypeRef) : Prop where
  /-- The name may be missing. -/
  qualifiedName : r.qualifiedName.IsName
  /-- The mark is a truth value. -/
  collection : r.collection.IsMark

/-- The name and the type of an element are typed. -/
@[mk_iff]
structure ChildElement.Typed (c : ChildElement) : Prop where
  elementName : c.elementName.IsText
  type : ∀ t ∈ c.type, t.Typed

/-- The names of a global element are typed. -/
@[mk_iff]
structure RootElement.Typed (e : RootElement) : Prop where
  /-- The class may be missing. -/
  qualifiedName : e.qualifiedName.IsName
  name : e.name.IsText
  /-- The namespace is there. -/
  space : e.space.IsText

/-! ### Operations -/

/-- The names and the type of a parameter are typed. -/
@[mk_iff]
structure Parameter.Typed (p : Parameter) : Prop where
  elementName : p.elementName.IsText
  /-- The part's name may be missing. -/
  partName : p.partName.IsName
  type : ∀ t ∈ p.type, t.Typed

/-- The names and the type of a result are typed. -/
@[mk_iff]
structure Result.Typed (r : Result) : Prop where
  name : r.name.IsText
  /-- The part's name may be missing. -/
  partName : r.partName.IsName
  targetNamespace : r.targetNamespace.IsText
  type : ∀ t ∈ r.type, t.Typed

/-- The names and the elements of a message are typed. -/
@[mk_iff]
structure BeanMessage.Typed (m : BeanMessage) : Prop where
  /-- The element's name is there. -/
  elementName : m.elementName.IsText
  /-- The element's namespace is there. -/
  space : m.space.IsText
  beanName : m.beanName.IsName
  /-- The elements inside are typed. -/
  children : ∀ c ∈ m.children, c.Typed

/-- The names, the carrier and the elements of a fault are typed. -/
@[mk_iff]
structure Fault.Typed (f : Fault) : Prop where
  /-- The name may be missing. -/
  qualifiedName : f.qualifiedName.IsName
  /-- The element's name is there. -/
  elementName : f.elementName.IsText
  /-- The element's namespace is there. -/
  space : f.space.IsText
  /-- The bean to generate may be missing. -/
  implicitBeanName : f.implicitBeanName.IsName
  /-- The declared carrier is typed. -/
  explicitBean : ∀ b ∈ f.explicitBean, b.Typed
  /-- The elements inside are typed. -/
  children : ∀ c ∈ f.children, c.Typed

/-- The message is typed, whichever it is. -/
def Message.Typed : Message → Prop
  | .bean m => m.Typed
  | .fault f => f.Typed

/-- The names and the parts of an operation are typed. -/
@[mk_iff]
structure Operation.Typed (o : Operation) : Prop where
  name : o.name.IsText
  /-- The name on the wire may be missing. -/
  operationName : o.operationName.IsName
  action : o.action.IsText
  parameters : ∀ p ∈ o.parameters, p.Typed
  result : o.result.Typed
  messages : ∀ m ∈ o.messages, m.Typed

/-- The names and the operations of an endpoint are typed. -/
@[mk_iff]
structure Endpoint.Typed (e : Endpoint) : Prop where
  /-- The name may be missing. -/
  qualifiedName : e.qualifiedName.IsName
  targetNamespace : e.targetNamespace.IsText
  /-- The port type's name may be missing. -/
  portTypeName : e.portTypeName.IsName
  /-- The service's name may be missing. -/
  serviceName : e.serviceName.IsName
  operations : ∀ o ∈ e.operations, o.Typed

/-! ### Schema types -/

/-- The name and the type of a member are typed. -/
@[mk_iff]
structure Member.Typed (m : Member) : Prop where
  name : m.name.IsText
  type : m.type.Typed

/-- The names, the members and the values of a type are typed. -/
@[mk_iff]
structure TypeDefinition.Typed (t : TypeDefinition) : Prop where
  /-- The name may be missing. -/
  qualifiedName : t.qualifiedName.IsName
  /-- The namespace is there. -/
  space : t.space.IsText
  members : ∀ m ∈ t.members, m.Typed
  values : ∀ v ∈ t.values, v.IsText
  /-- The type it extends is typed. -/
  base : ∀ b ∈ t.base, b.Typed

/-- The namespaces, the endpoints, the types and the elements of a model are typed. -/
@[mk_iff]
structure ServiceModel.Typed (m : ServiceModel) : Prop where
  endpointSpaces : ∀ s ∈ m.endpointGroups.keys, s.IsText
  /-- Types and elements are grouped by texts. -/
  schemaSpaces : ∀ s ∈ m.schemaGroups.keys, s.IsText
  endpoints : ∀ e ∈ m.endpoints, e.Typed
  types : ∀ t ∈ m.types, t.Typed
  /-- The global elements are typed. -/
  rootElements : ∀ e ∈ m.rootElements, e.Typed

/-! ### Decidability -/

instance : DecidablePred TypeRef.Typed := fun r => decidable_of_iff _ (TypeRef.typed_iff r).symm

instance : DecidablePred ChildElement.Typed :=
  fun c => decidable_of_iff _ (ChildElement.typed_iff c).symm

instance : DecidablePred RootElement.Typed :=
  fun e => decidable_of_iff _ (RootElement.typed_iff e).symm

instance : DecidablePred Parameter.Typed := fun p => decidable_of_iff _ (Parameter.typed_iff p).symm

instance : DecidablePred Result.Typed := fun r => decidable_of_iff _ (Result.typed_iff r).symm

instance : DecidablePred BeanMessage.Typed :=
  fun m => decidable_of_iff _ (BeanMessage.typed_iff m).symm

instance : DecidablePred Fault.Typed := fun f => decidable_of_iff _ (Fault.typed_iff f).symm

instance : DecidablePred Message.Typed
  | .bean m => inferInstanceAs (Decidable m.Typed)
  | .fault f => inferInstanceAs (Decidable f.Typed)

instance : DecidablePred Operation.Typed := fun o => decidable_of_iff _ (Operation.typed_iff o).symm

instance : DecidablePred Endpoint.Typed := fun e => decidable_of_iff _ (Endpoint.typed_iff e).symm

instance : DecidablePred Member.Typed := fun m => decidable_of_iff _ (Member.typed_iff m).symm

instance : DecidablePred TypeDefinition.Typed :=
  fun t => decidable_of_iff _ (TypeDefinition.typed_iff t).symm

instance : DecidablePred ServiceModel.Typed :=
  fun m => decidable_of_iff _ (ServiceModel.typed_iff m).symm

end SoapStubs
