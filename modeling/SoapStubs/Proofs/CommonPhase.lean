import Mathlib.Data.List.Forall2
import SoapStubs.Proofs.FaultResolution
import SoapStubs.Proofs.Play

/-!
# What the common phase records

The descriptors that the common phase records for a typed model, in order: those of the endpoints
with their operations and messages, those of the faults, and those of the global elements.

* `Operation.writes`, `Endpoint.writes` and `ServiceModel.writes` list them;
* `commonScript_ends`: a common phase that has a result has recorded exactly these;
* `ServiceModel.simple_writes`: all of them are simple.
-/

namespace SoapStubs

/-! ### What there is to record -/

def BeanMessage.identifier (r : Resolver) (m : BeanMessage) : String :=
  r.resolveName m.beanName.nameText

/-- The identifier of the class that a global element is bound to. -/
def RootElement.identifier (r : Resolver) (e : RootElement) : String :=
  r.resolveName e.qualifiedName.nameText

/-- The identifier of the interface. -/
def Endpoint.identifier (r : Resolver) (e : Endpoint) : String :=
  r.resolveName e.qualifiedName.nameText

/-- The bean of the last message of a direction. -/
def BeanMessage.last (r : Resolver) (request : Bool) (ms : List BeanMessage) : Option String :=
  (ms.filter (·.wrapper.isRequest == request)).getLast?.map (identifier r)

namespace Operation

/-- The messages that are carried by beans. -/
def beanMessages (o : Operation) : List BeanMessage := o.messages.filterMap Message.bean?

def methodKey (endpoint : String) (o : Operation) : String := endpoint ++ "." ++ o.name.nameText

def descriptor (r : Resolver) (o : Operation) : Descriptor :=
  .operation o.wireName o.action (.ofOption (BeanMessage.last r true o.beanMessages))
    (.ofOption (BeanMessage.last r false o.beanMessages))

/-- What is recorded for an operation under its method's key. -/
def writesAt (r : Resolver) (key : String) (o : Operation) : List Registry.Write :=
  (o.beanMessages.map fun m => (m.identifier r, m.descriptor key)) ++
  ([(key, o.binding.descriptor), (key, o.descriptor r), (key, o.result.descriptor)] ++
  ((if o.oneWay then [(key, .oneWay)] else []) ++
    o.parameters.mapIdx fun i p => (key ++ "." ++ toString i, p.descriptor)))

end Operation

def Endpoint.writes (r : Resolver) (e : Endpoint) : List Registry.Write :=
  [(e.identifier r, e.descriptor), (e.identifier r, e.binding.descriptor)] ++
    e.operations.flatMap fun o => o.writesAt r (o.methodKey (e.identifier r))

/-- What is recorded for a model whose faults are resolved. -/
def ServiceModel.writes (r : Resolver) (m : ServiceModel) (faults : List ResolvedFault) :
    List Registry.Write :=
  m.endpoints.flatMap (Endpoint.writes r) ++
    ((faults.map fun f => (f.identifier, f.descriptor)) ++
      m.rootElements.map fun e => (e.identifier r, .rootElement e.name e.space))

/-! ### Messages and parameters -/

section

variable {r : Resolver} {key : String} {ws : List Registry.Write}

open Script

theorem Resolver.resolve_inv {α : Type} [Named α] {a : α} {id : String}
    (hn : (Named.qualifiedName a).IsName) (h : r.resolve a = .ok id) :
    id = r.resolveName (Named.qualifiedName a).nameText ∧
      (Named.qualifiedName a).nameText ≠ "" := by
  by_cases hs : (Named.qualifiedName a).nameText = ""
  · exact absurd h ((r.resolve_error hn hs).ne_ok id)
  · rw [r.resolve_ok (hn.eq_text hs) hs] at h
    exact ⟨(Except.ok.inj h).symm, hs⟩

theorem Value.IsName.qualifiedName_eq {v : Value} (h : v.IsName) : Named.qualifiedName v = v := by
  rcases h.eq with rfl | he
  · rfl
  · rw [he]
    rfl

theorem beanScript_ends {m : BeanMessage} {bean : String} (hm : m.Typed)
    (h : (beanScript r key m).Ends ws bean) :
    ws = [(m.identifier r, m.descriptor key)] ∧ bean = m.identifier r := by
  rw [beanScript] at h
  split at h
  · cases h.result
  simp only [ends_lift_bind, ends_declare_bind, ends_record_bind, ends_emit_bind, ends_pure] at h
  obtain ⟨id, hid, back, ⟨properties, -, rfl, rfl⟩, rfl⟩ := h
  have hname := hm.beanName.qualifiedName_eq
  obtain ⟨hid, -⟩ := Resolver.resolve_inv (by rw [hname]; exact hm.beanName) hid
  rw [hname] at hid
  exact ⟨by rw [hid]; rfl, hid⟩

theorem BeanMessage.last_cons (request : Bool) (m : BeanMessage) (ms : List BeanMessage) :
    last r request (m :: ms) = (last r request ms).or
      (if m.wrapper.isRequest = request then some (m.identifier r) else none) := by
  by_cases hw : m.wrapper.isRequest = request
  · rw [if_pos hw, last, last, List.filter_cons_of_pos (by simpa using hw), List.getLast?_cons]
    cases (ms.filter (·.wrapper.isRequest == request)).getLast? <;> rfl
  · rw [if_neg hw, last, last, List.filter_cons_of_neg (by simpa using hw), Option.or_none]

/-- Messages are recorded one after another, and the last of each direction counts. -/
theorem messagesScript_ends {ms : List Message} {found out : MessageOutcome}
    (hms : ∀ m ∈ ms, m.Typed) (h : (messagesScript r key found ms).Ends ws out) :
    ws = (ms.filterMap Message.bean?).map (fun m => (m.identifier r, m.descriptor key)) ∧
      out.beans = ⟨(BeanMessage.last r true (ms.filterMap Message.bean?)).or found.beans.request,
        (BeanMessage.last r false (ms.filterMap Message.bean?)).or found.beans.response⟩ := by
  induction ms generalizing found ws with
  | nil =>
    obtain ⟨rfl, rfl⟩ := ends_pure.1 h
    exact ⟨rfl, rfl⟩
  | cons m ms ih =>
    have hrest : ∀ m ∈ ms, m.Typed := fun m hm => hms m (List.mem_cons_of_mem _ hm)
    cases m with
    | fault f =>
      simp only [messagesScript, ends_lift_bind] at h
      obtain ⟨id, -, h⟩ := h
      exact (ih hrest h :)
    | bean m =>
      obtain ⟨bean, front, back, hbean, h₁, rfl⟩ := ends_bind.1 h
      obtain ⟨rfl, rfl⟩ := beanScript_ends (hms _ List.mem_cons_self) hbean
      obtain ⟨rfl, hout⟩ := ih hrest h₁
      refine ⟨rfl, ?_⟩
      rw [hout]
      simp only [List.filterMap_cons, Message.bean?, BeanMessage.last_cons, Option.or_assoc,
        Beans.add]
      cases m.wrapper.isRequest <;> simp

theorem parametersScript_ends {ps : List Parameter} {i : Nat} {u : Unit}
    (h : (parametersScript key i ps).Ends ws u) :
    ws = ps.mapIdx fun j p => (key ++ "." ++ toString (i + j), p.descriptor) := by
  induction ps generalizing i ws with
  | nil => exact (ends_pure.1 h).1
  | cons p ps ih =>
    simp only [parametersScript, ends_record_bind] at h
    obtain ⟨back, h, rfl⟩ := h
    rw [ih h, List.mapIdx_cons]
    simp [Nat.add_assoc, Nat.add_comm 1]

/-! ### Operations and endpoints -/

theorem Value.IsText.plain_eq {v : Value} (h : v.IsText) : v.plain = v.nameText := by
  rw [h.eq]
  rfl

theorem operationScript_ends {endpoint : String} {o : Operation} {plan : OperationPlan}
    (ho : o.Typed) (h : (operationScript r endpoint o).Ends ws plan) :
    ws = o.writesAt r (o.methodKey endpoint) := by
  rw [operationScript, ho.name.plain_eq, ← Operation.methodKey] at h
  obtain ⟨out, front, back, hmessages, h₁, rfl⟩ := ends_bind.1 h
  obtain ⟨rfl, hbeans⟩ := messagesScript_ends ho.messages hmessages
  have hend : ∀ {ws plan'}, (do
      parametersScript (o.methodKey endpoint) 0 o.parameters
      pure plan' : Script OperationPlan).Ends ws plan →
      ws = o.parameters.mapIdx fun i p =>
        (o.methodKey endpoint ++ "." ++ toString i, p.descriptor) := by
    intro ws plan' h
    obtain ⟨⟨⟩, front, back, hparameters, hpure, rfl⟩ := ends_bind.1 h
    rw [parametersScript_ends hparameters, (ends_pure.1 hpure).1, List.append_nil]
    simp only [Nat.zero_add]
  simp only [ends_record_bind] at h₁
  obtain ⟨back, ⟨back, ⟨back, h₂, rfl⟩, rfl⟩, rfl⟩ := h₁
  have hback : back = (if o.oneWay then [(o.methodKey endpoint, .oneWay)] else []) ++
      o.parameters.mapIdx fun i p => (o.methodKey endpoint ++ "." ++ toString i, p.descriptor) := by
    split at h₂
    · rename_i hone
      simp only [ends_record_bind] at h₂
      obtain ⟨back, h₃, rfl⟩ := h₂
      rw [hend h₃, if_pos hone]
      rfl
    · rename_i hone
      rw [hend h₂, if_neg hone]
      rfl
  rw [hback, hbeans]
  simp [Operation.writesAt, Operation.descriptor, Operation.beanMessages]

theorem endpointScript_ends {e : Endpoint} {plan : EndpointPlan} (he : e.Typed)
    (h : (endpointScript r e).Ends ws plan) :
    ws = e.writes r ∧ r.resolve e = .ok (e.identifier r) := by
  simp only [endpointScript, ends_lift_bind, ends_record_bind] at h
  obtain ⟨id, hid, back, ⟨back, h, rfl⟩, rfl⟩ := h
  obtain ⟨rfl, -⟩ := Resolver.resolve_inv he.qualifiedName hid
  obtain ⟨plans, front, back, hoperations, hpure, rfl⟩ := ends_bind.1 h
  obtain ⟨rfl, -⟩ := ends_pure.1 hpure
  obtain ⟨rfl, -⟩ := ends_each _ (fun _ _ => True) hoperations fun o ho ws plan h =>
    ⟨operationScript_ends (he.operations o ho) h, trivial⟩
  refine ⟨?_, hid⟩
  rw [List.append_nil]
  rfl

/-! ### Faults, types and global elements -/

theorem carrierScript_ends {f : ResolvedFault} {u : Unit} (h : (carrierScript r f).Ends ws u) :
    ws = [] := by
  simp only [carrierScript, ends_declare_bind, ends_lift_bind] at h
  obtain ⟨properties, -, h⟩ := h
  exact ends_take.1 h

theorem faultScript_ends {f : ResolvedFault} {u : Unit} (h : (faultScript r f).Ends ws u) :
    ws = [(f.identifier, f.descriptor)] := by
  rw [faultScript] at h
  split at h
  · obtain ⟨⟨⟩, front, back, hcarrier, hrecord, rfl⟩ := ends_bind.1 h
    rw [carrierScript_ends hcarrier, ends_take.1 hrecord]
    rfl
  · exact ends_take.1 h

theorem typeScript_ends {m : ServiceModel} {t : TypeDefinition} {plan : TypePlan}
    (h : (typeScript r m t).Ends ws plan) :
    ws = [] ∧ plan.definition = t ∧ plan.rootElement = m.rootElementOf plan.definition := by
  simp only [typeScript, ends_lift_bind] at h
  obtain ⟨id, -, h⟩ := h
  have hplan : ws = [] ∧ ⟨id, t, m.rootElementOf t⟩ = plan := by
    split at h
    · simp only [ends_declare_bind, ends_lift_bind, ends_emit_bind, ends_pure] at h
      obtain ⟨bindings, -, h⟩ := h
      exact h
    · simp only [ends_lift_bind, ends_emit_bind, ends_pure] at h
      obtain ⟨bindings, -, h⟩ := h
      exact h
  obtain ⟨rfl, rfl⟩ := hplan
  exact ⟨rfl, rfl, rfl⟩

/-- Plans that are made one for each entity, in the order of the entities. -/
theorem plans_eq {α β : Type} {entity : β → α} {P : β → Prop} {entities : List α} {plans : List β}
    (h : List.Forall₂ (fun a p => entity p = a ∧ P p) entities plans) :
    plans.map entity = entities ∧ ∀ p ∈ plans, P p := by
  induction h with
  | nil => exact ⟨rfl, nofun⟩
  | cons hp _ ih =>
    obtain ⟨rfl, hp⟩ := hp
    exact ⟨by rw [List.map_cons, ih.1], List.forall_mem_cons.2 ⟨hp, ih.2⟩⟩

theorem rootScript_ends {e : RootElement} {u : Unit} (he : e.Typed)
    (h : (rootScript r e).Ends ws u) :
    ws = [(e.identifier r, .rootElement e.name e.space)] ∧
      r.resolve e = .ok (e.identifier r) := by
  simp only [rootScript, ends_lift_bind] at h
  obtain ⟨id, hid, h⟩ := h
  obtain ⟨rfl, -⟩ := Resolver.resolve_inv he.qualifiedName hid
  exact ⟨ends_take.1 h, hid⟩

theorem resolveFaultsLogged_ok {fs : List Fault} {faults : List ResolvedFault}
    (h : (resolveFaultsLogged r fs).result = .ok faults) : resolveFaults r fs = .ok faults := by
  cases hr : resolveFaults r fs with
  | error e =>
    rw [resolveFaultsLogged, hr] at h
    cases h
  | ok rs =>
    rw [resolveFaultsLogged, hr] at h
    exact h

/-- The endpoints and the types of a plan come from the scripts of the endpoints and the types. -/
theorem commonScript_parts {m : ServiceModel} {plan : CommonPlan}
    (h : (commonScript r m).result = .ok plan) : ∃ front back,
      (Script.each (endpointScript r) m.endpoints).Ends front plan.endpoints ∧
        (Script.each (typeScript r m) m.types).Ends back plan.types := by
  obtain ⟨endpoints, front₁, back₁, hendpoints, h₁, -⟩ := ends_bind.1 (ends_writes h)
  obtain ⟨faults, front₂, back₂, -, h₂, -⟩ := ends_bind.1 h₁
  obtain ⟨units, front₃, back₃, -, h₃, -⟩ := ends_bind.1 h₂
  obtain ⟨types, front₄, back₄, htypes, h₄, -⟩ := ends_bind.1 h₃
  obtain ⟨units', front₅, back₅, -, h₅, -⟩ := ends_bind.1 h₄
  obtain ⟨-, rfl⟩ := ends_pure.1 h₅
  exact ⟨front₁, front₄, hendpoints, htypes⟩

/-- **What the common phase records.**  A common phase that has a result recorded the descriptors of
the model, and its result has the resolved faults and the types of the model. -/
theorem commonScript_ends {m : ServiceModel} {plan : CommonPlan} (hm : m.Typed)
    (h : (commonScript r m).Ends ws plan) :
    ws = m.writes r plan.faults ∧ resolveFaults r m.faults = .ok plan.faults ∧
      (∀ e ∈ m.endpoints, r.resolve e = .ok (e.identifier r)) ∧
      (∀ e ∈ m.rootElements, r.resolve e = .ok (e.identifier r)) ∧
      plan.types.map (·.definition) = m.types ∧
      ∀ t ∈ plan.types, t.rootElement = m.rootElementOf t.definition := by
  -- one part for each loop of the phase, in its order
  obtain ⟨endpoints, front₁, back₁, hendpoints, h₁, rfl⟩ := ends_bind.1 h
  obtain ⟨faults, front₂, back₂, hfaults, h₂, rfl⟩ := ends_bind.1 h₁
  obtain ⟨units, front₃, back₃, hunits, h₃, rfl⟩ := ends_bind.1 h₂
  obtain ⟨types, front₄, back₄, htypes, h₄, rfl⟩ := ends_bind.1 h₃
  obtain ⟨units', front₅, back₅, hroots, h₅, rfl⟩ := ends_bind.1 h₄
  obtain ⟨rfl, rfl⟩ := ends_pure.1 h₅
  obtain ⟨rfl, hresolved⟩ := ends_each _
    (fun e _ => r.resolve e = .ok (e.identifier r) ∧ True) hendpoints fun e he ws plan h => by
      simpa using endpointScript_ends (hm.endpoints e he) h
  obtain ⟨rfl, hlogged⟩ := ends_logged.1 hfaults
  obtain ⟨rfl, -⟩ := ends_each _ (fun _ _ => True) hunits fun f _ ws u h =>
    ⟨faultScript_ends h, trivial⟩
  obtain ⟨rfl, hplans⟩ := ends_each (fun _ => []) _ htypes fun t _ ws plan h => typeScript_ends h
  obtain ⟨rfl, hresolved'⟩ := ends_each _
    (fun e _ => r.resolve e = .ok (e.identifier r) ∧ True) hroots fun e he ws u h => by
      simpa using rootScript_ends (hm.rootElements e he) h
  refine ⟨?_, resolveFaultsLogged_ok hlogged, ((List.forall₂_and_left _ _).1 hresolved).1,
    ((List.forall₂_and_left _ _).1 hresolved').1, plans_eq hplans⟩
  simp [ServiceModel.writes, List.map_eq_flatMap]

end

/-! ### Simple descriptors -/

section

variable {r : Resolver}

theorem Value.IsName.simple {v : Value} (h : v.IsName) : v.Simple := by
  rcases h.eq with rfl | he
  · exact .null
  · rw [he]
    exact .text _

theorem Value.IsText.simple {v : Value} (h : v.IsText) : v.Simple := h.isName.simple

theorem Value.IsName.orElse {v w : Value} (h : v.IsName) (hw : w.IsText) :
    (v.orElse w).IsText := by
  rw [Value.orElse]
  split
  · rename_i hv
    exact h.isText fun he => by simp [he, Value.truthy] at hv
  · exact hw

theorem Value.simple_ofOption (s : Option String) : (Value.ofOption s).Simple := by
  cases s with
  | none => exact .null
  | some s => exact .text s

theorem SoapBinding.simple_descriptor (b : SoapBinding) : b.descriptor.Simple := by
  simp [Descriptor.Simple, descriptor, Descriptor.entries, Labelled.value, Value.Simple.text]

theorem Endpoint.simple_descriptor {e : Endpoint} (he : e.Typed) : e.descriptor.Simple := by
  have hport : e.portType.Simple := (he.portTypeName.orElse (Value.isText_text _)).simple
  have hservice : e.service.Simple := (he.serviceName.orElse (Value.isText_text _)).simple
  simp [Descriptor.Simple, descriptor, Descriptor.entries, hport, hservice,
    he.targetNamespace.simple, Value.Simple.text]

theorem BeanMessage.simple_descriptor {m : BeanMessage} (hm : m.Typed) (key : String) :
    (m.descriptor key).Simple := by
  have hchildren : (Value.tuple (m.children.map (·.elementName))).Simple := by
    have he : m.children.map (·.elementName) =
        (m.children.map (·.elementName.nameText)).map Value.text := by
      rw [List.map_map]
      exact List.map_congr_left fun c hc => (hm.children c hc).elementName.eq
    rw [he]
    exact .texts _
  simp [Descriptor.Simple, descriptor, Descriptor.entries, hm.elementName.simple, hm.space.simple,
    hchildren, Value.Simple.text]

theorem Operation.simple_writesAt {o : Operation} (ho : o.Typed) (key : String) :
    ∀ w ∈ o.writesAt r key, w.2.Simple := by
  have hwire : o.wireName.Simple := (ho.operationName.orElse ho.name).simple
  have hbean : ∀ m ∈ o.beanMessages, m.Typed := fun m hm => by
    obtain ⟨message, hmem, he⟩ := List.mem_filterMap.1 hm
    cases message with
    | fault f => cases he
    | bean m' =>
      obtain rfl := Option.some.inj he
      exact ho.messages _ hmem
  intro w hw
  simp only [writesAt, List.mem_append, List.mem_map, List.mem_cons, List.not_mem_nil, or_false,
    List.mem_mapIdx] at hw
  rcases hw with ⟨m, hm, rfl⟩ | (rfl | rfl | rfl) | hone | ⟨i, hi, rfl⟩
  · exact BeanMessage.simple_descriptor (hbean m hm) key
  · exact SoapBinding.simple_descriptor _
  · simp [Descriptor.Simple, descriptor, Descriptor.entries, hwire, ho.action.simple,
      Value.simple_ofOption]
  · simp [Descriptor.Simple, Result.descriptor, Descriptor.entries, ho.result.name.simple,
      ho.result.partName.simple, ho.result.targetNamespace.simple, Value.Simple.bool]
  · split at hone
    · rw [List.mem_singleton.1 hone]
      simp [Descriptor.Simple, Descriptor.entries]
    · cases hone
  · have hp := ho.parameters _ (List.getElem_mem hi)
    simp [Descriptor.Simple, Parameter.descriptor, Descriptor.entries, hp.elementName.simple,
      hp.partName.simple, Labelled.value, Value.Simple.text, Value.Simple.bool]

theorem ServiceModel.Typed.faults {m : ServiceModel} (hm : m.Typed) :
    ∀ f ∈ m.faults, f.Typed := by
  intro f hf
  simp only [ServiceModel.faults, List.mem_flatMap, List.mem_filterMap] at hf
  obtain ⟨e, he, o, ho, message, hmem, hfault⟩ := hf
  have htyped := ((hm.endpoints e he).operations o ho).messages message hmem
  cases message with
  | bean m => cases hfault
  | fault f' =>
    obtain rfl := Option.some.inj hfault
    exact htyped

theorem ResolvedFault.simple_descriptor {fs : List Fault} {faults : List ResolvedFault}
    (htyped : ∀ f ∈ fs, f.Typed) (h : resolveFaults r fs = .ok faults) :
    ∀ f ∈ faults, f.descriptor.Simple := by
  obtain ⟨-, hres⟩ := resolution_of_ok r htyped h
  intro f hf
  obtain ⟨d, hd, rfl⟩ := hres.chosen f hf
  have ht := htyped d (Fault.mem_declaredAs.1 (FirstLeast.mem hd)).1
  have helement : d.element.1.IsText ∧ d.element.2.IsText := by
    rw [Fault.element]
    split
    · exact ⟨ht.elementName, ht.space⟩
    · rename_i b hb
      exact ⟨(ht.explicitBean b hb).name, (ht.explicitBean b hb).space⟩
  simp [Descriptor.Simple, descriptor, Descriptor.entries, Fault.entry, helement.1.simple,
    helement.2.simple, Value.Simple.text, Value.Simple.bool]

/-- All that is recorded for a typed model is simple. -/
theorem ServiceModel.simple_writes {m : ServiceModel} {faults : List ResolvedFault} (hm : m.Typed)
    (hf : resolveFaults r m.faults = .ok faults) : ∀ w ∈ m.writes r faults, w.2.Simple := by
  intro w hw
  simp only [writes, List.mem_append, List.mem_flatMap, List.mem_map] at hw
  rcases hw with ⟨e, he, hw⟩ | ⟨f, hmem, rfl⟩ | ⟨e, he, rfl⟩
  · simp only [Endpoint.writes, List.mem_append, List.mem_cons, List.not_mem_nil, or_false,
      List.mem_flatMap] at hw
    rcases hw with (rfl | rfl) | ⟨o, ho, hw⟩
    · exact Endpoint.simple_descriptor (hm.endpoints e he)
    · exact SoapBinding.simple_descriptor _
    · exact Operation.simple_writesAt ((hm.endpoints e he).operations o ho) _ w hw
  · exact ResolvedFault.simple_descriptor hm.faults hf f hmem
  · simp [Descriptor.Simple, Descriptor.entries, (hm.rootElements e he).name.simple,
      (hm.rootElements e he).space.simple]

end

end SoapStubs
