import SoapStubs.Proofs.Variants

/-!
# The common result is closed

Whatever the result of the common phase refers to is in it: its records name beans that are
declared and described, its plans name classes that have records, and the faults that operations
throw are the faults that were resolved, which are those that have a mapping.  This holds whether or
not descriptors were written over others.

* `Registry.HasRecord` says that there is a record of a kind at a key;
* `OperationPlan.Describes` and `EndpointPlan.Describes` say what the plans hold, and
  `commonScript_plans` that they do;
* `CommonResult.Closed` lists what it is to be closed, and `Generator.runCommon_closed` is the
  theorem.
-/

namespace SoapStubs

/-! ### Records and writes -/

namespace Registry

variable {r : Registry} {writes : List Write} {w : Write}

/-- There is a record of the kind at the key. -/
def HasRecord (r : Registry) (key : Value) (kind : DescriptorKind) : Prop :=
  ∃ record ∈ r.records, record.key = key ∧ record.kind = kind

theorem records_freeze (r : Registry) : r.freeze.records = r.records := by
  cases r <;> rfl

theorem records_writeAll (h : empty.writeAll writes = .ok r) :
    r.records = (ledger writes).map fun p => ⟨.text p.1.1, p.2⟩ := by
  obtain ⟨hparent, hslots⟩ := slots_writeAll h
  cases r with
  | overlay parent own => cases hparent
  | base own =>
    rw [records, Layer.records, show own.slots = _ from hslots, List.map_map]
    rfl

/-- Every record was written, under a text. -/
theorem mem_of_mem_records (h : empty.writeAll writes = .ok r) {record : Record}
    (hrecord : record ∈ r.records) : ∃ w ∈ writes, record = ⟨.text w.1, w.2⟩ := by
  rw [records_writeAll h] at hrecord
  obtain ⟨p, hp, rfl⟩ := List.mem_map.1 hrecord
  rcases Ordered.mem_of_mem_putAll hp with hp | hp
  · cases hp
  · obtain ⟨w, hw, rfl⟩ := List.mem_map.1 hp
    exact ⟨w, hw, rfl⟩

/-- Where something was written, there is a record, perhaps of a later write. -/
theorem hasRecord_of_mem (h : empty.writeAll writes = .ok r) (hw : w ∈ writes) :
    r.HasRecord (.text w.1) w.2.kind := by
  cases hget : (ledger writes).get? (w.1, w.2.kind) with
  | none => exact absurd hget (get?_ledger_ne_none hw)
  | some d =>
    obtain ⟨-, hkind⟩ := mem_of_get?_ledger hget
    obtain ⟨k, hmem, hkey⟩ := Ordered.exists_mem_of_get?_eq_some hget
    refine ⟨⟨.text w.1, d⟩, ?_, rfl, hkind⟩
    rw [records_writeAll h]
    refine List.mem_map.2 ⟨_, hmem, ?_⟩
    rw [eq_of_beq hkey]

end Registry

/-- Whatever is recorded is recorded for an endpoint, an operation, a fault or a global element. -/
theorem ServiceModel.mem_writes {r : Resolver} {m : ServiceModel} {faults : List ResolvedFault}
    {w : Registry.Write} : w ∈ m.writes r faults ↔
      (∃ e ∈ m.endpoints, w = (e.identifier r, e.descriptor) ∨
        w = (e.identifier r, e.binding.descriptor) ∨
        ∃ o ∈ e.operations, w ∈ o.writesAt r (o.methodKey (e.identifier r))) ∨
      (∃ f ∈ faults, w = (f.identifier, f.descriptor)) ∨
      ∃ e ∈ m.rootElements, w = (e.identifier r, .rootElement e.name e.space) := by
  simp only [writes, Endpoint.writes, List.mem_append, List.mem_flatMap, List.mem_map,
    List.mem_cons, List.not_mem_nil, or_false, or_assoc, eq_comm (b := w)]

/-- What is recorded for an operation: its beans, its three descriptors, that it is one-way, and its
parameters. -/
theorem Operation.mem_writesAt {r : Resolver} {key : String} {o : Operation}
    {w : Registry.Write} : w ∈ o.writesAt r key ↔
      (∃ m ∈ o.beanMessages, w = (m.identifier r, m.descriptor key)) ∨
      (w = (key, o.binding.descriptor) ∨ w = (key, o.descriptor r) ∨
        w = (key, o.result.descriptor)) ∨
      (o.oneWay = true ∧ w = (key, .oneWay)) ∨
      ∃ (i : Nat) (hi : i < o.parameters.length),
        w = (key ++ "." ++ toString i, o.parameters[i].descriptor) := by
  have hone : w ∈ (if o.oneWay then [(key, Descriptor.oneWay)] else []) ↔
      o.oneWay = true ∧ w = (key, .oneWay) := by
    cases o.oneWay <;> simp
  simp only [writesAt, List.mem_append, List.mem_map, List.mem_cons, List.not_mem_nil, or_false,
    List.mem_mapIdx, hone, eq_comm (b := w)]

/-! ### What the plans hold -/

/-- The faults that an operation throws. -/
def Operation.faults (o : Operation) : List Fault := o.messages.filterMap Message.fault?

/-- The plan of an operation has the beans of its last messages and the faults it throws. -/
structure OperationPlan.Describes (r : Resolver) (p : OperationPlan) : Prop where
  request : p.requestBean = BeanMessage.last r true p.operation.beanMessages
  response : p.responseBean = BeanMessage.last r false p.operation.beanMessages
  faults : ∀ id, id ∈ p.faults ↔ ∃ f ∈ p.operation.faults, id = r.resolveName f.name

/-- The plan of an endpoint has its identifier and the plans of its operations. -/
structure EndpointPlan.Describes (r : Resolver) (p : EndpointPlan) : Prop where
  identifier : p.identifier = p.endpoint.identifier r
  /-- The operations are those of the endpoint. -/
  operations : p.operations.map (·.operation) = p.endpoint.operations
  describes : ∀ o ∈ p.operations, o.Describes r

section

variable {r : Resolver} {key : String} {ws : List Registry.Write}

open Script

theorem messagesScript_faults {ms : List Message} {found out : MessageOutcome}
    (hms : ∀ m ∈ ms, m.Typed) (h : (messagesScript r key found ms).Ends ws out) (id : String) :
    id ∈ out.faults ↔
      id ∈ found.faults ∨ ∃ f ∈ ms.filterMap Message.fault?, id = r.resolveName f.name := by
  induction ms generalizing found ws with
  | nil =>
    obtain ⟨-, rfl⟩ := ends_pure.1 h
    simp
  | cons m ms ih =>
    have hrest : ∀ m ∈ ms, m.Typed := fun m hm => hms m (List.mem_cons_of_mem _ hm)
    cases m with
    | bean m =>
      obtain ⟨bean, front, back, -, h₁, rfl⟩ := ends_bind.1 h
      rw [ih hrest h₁]
      rfl
    | fault f =>
      simp only [messagesScript, ends_lift_bind] at h
      obtain ⟨id', hid', h⟩ := h
      have hf : f.Typed := hms _ List.mem_cons_self
      obtain ⟨heq, -⟩ := Resolver.resolve_inv hf.qualifiedName hid'
      obtain rfl : id' = r.resolveName f.name := heq
      have hadd : ∀ id, id ∈ (if found.faults.contains (r.resolveName f.name) then found.faults
          else found.faults ++ [r.resolveName f.name]) ↔
            id ∈ found.faults ∨ id = r.resolveName f.name := by
        intro id
        split
        · rename_i hmem
          rw [List.contains_iff_mem] at hmem
          exact ⟨.inl, fun hid => hid.elim (fun hid => hid) fun hid => hid ▸ hmem⟩
        · simp
      rw [ih hrest h, hadd]
      simp [Message.fault?, or_assoc]

theorem operationScript_plan {endpoint : String} {o : Operation} {plan : OperationPlan}
    (ho : o.Typed) (h : (operationScript r endpoint o).Ends ws plan) :
    plan.operation = o ∧ plan.Describes r := by
  obtain ⟨out, front, back, hmessages, h₁, -⟩ := ends_bind.1 h
  obtain ⟨-, hbeans⟩ := messagesScript_ends ho.messages hmessages
  have hfaults := messagesScript_faults ho.messages hmessages
  simp only [ends_record_bind] at h₁
  obtain ⟨back₁, ⟨back₂, ⟨back₃, h₂, -⟩, -⟩, -⟩ := h₁
  have hplan : { methodKey := endpoint ++ "." ++ o.name.plain, operation := o
                 requestBean := out.beans.request, responseBean := out.beans.response
                 faults := out.faults : OperationPlan } = plan := by
    split at h₂
    · simp only [ends_record_bind] at h₂
      obtain ⟨back₄, h₃, -⟩ := h₂
      obtain ⟨⟨⟩, front₅, back₅, -, h₄, -⟩ := ends_bind.1 h₃
      exact (ends_pure.1 h₄).2
    · obtain ⟨⟨⟩, front₄, back₄, -, h₃, -⟩ := ends_bind.1 h₂
      exact (ends_pure.1 h₃).2
  subst hplan
  refine ⟨rfl, ?_, ?_, fun id => ?_⟩
  · simp [hbeans, Operation.beanMessages]
  · simp [hbeans, Operation.beanMessages]
  · simpa [Operation.faults] using hfaults id

theorem endpointScript_describes {e : Endpoint} {plan : EndpointPlan} (he : e.Typed)
    (h : (endpointScript r e).Ends ws plan) : plan.endpoint = e ∧ plan.Describes r := by
  obtain ⟨hid, -⟩ := endpointScript_plan he h
  simp only [endpointScript, ends_lift_bind, ends_record_bind] at h
  obtain ⟨id, -, back₁, ⟨back₂, h₁, -⟩, -⟩ := h
  obtain ⟨plans, front₃, back₃, hoperations, h₂, -⟩ := ends_bind.1 h₁
  obtain ⟨-, rfl⟩ := ends_pure.1 h₂
  obtain ⟨-, hplans⟩ := ends_each (fun o => o.writesAt r (o.methodKey id))
    (fun o p => p.operation = o ∧ p.Describes r) hoperations fun o ho ws plan h =>
      ⟨operationScript_ends (he.operations o ho) h, operationScript_plan (he.operations o ho) h⟩
  obtain ⟨hmap, hdescribes⟩ := plans_eq hplans
  exact ⟨rfl, hid, hmap, hdescribes⟩

/-- The plans of the endpoints are those of the model. -/
theorem commonScript_plans {m : ServiceModel} {plan : CommonPlan} (hm : m.Typed)
    (h : (commonScript r m).result = .ok plan) :
    plan.endpoints.map (·.endpoint) = m.endpoints ∧ ∀ e ∈ plan.endpoints, e.Describes r := by
  obtain ⟨front, -, hendpoints, -⟩ := commonScript_parts h
  obtain ⟨-, hplans⟩ := ends_each (Endpoint.writes r) (fun e p => p.endpoint = e ∧ p.Describes r)
    hendpoints fun e he ws plan h => ⟨(endpointScript_ends (hm.endpoints e he) h).1,
      endpointScript_describes (hm.endpoints e he) h⟩
  exact plans_eq hplans

/-! ### Faults -/

/-- The identifiers of the resolved faults are those of the faults that are declared. -/
theorem resolveFaults_identifiers {fs : List Fault} {faults : List ResolvedFault}
    (htyped : ∀ f ∈ fs, f.Typed) (h : resolveFaults r fs = .ok faults) (id : String) :
    (∃ e ∈ faults, e.identifier = id) ↔ ∃ f ∈ fs, id = r.resolveName f.name := by
  obtain ⟨-, hres⟩ := resolution_of_ok r htyped h
  constructor
  · rintro ⟨e, he, rfl⟩
    obtain ⟨f, hf, rfl⟩ := hres.chosen e he
    exact ⟨f, (Fault.mem_declaredAs.1 (FirstLeast.mem hf)).1, rfl⟩
  · rintro ⟨f, hf, rfl⟩
    obtain ⟨e, he, hname⟩ := hres.complete f hf
    obtain ⟨d, -, rfl⟩ := hres.chosen e he
    exact ⟨_, he, congrArg r.resolveName hname⟩

end

/-! ### The closed result -/

namespace CommonResult

/-- There is no bean, or it is declared and described. -/
def IsBean (c : CommonResult) (bean : Value) : Prop :=
  bean = .null ∨ ∃ id, bean = .text id ∧ c.manifest.contains id = true ∧
    c.registry.HasRecord (.text id) .wrapper

/-- Whatever the result refers to is in it. -/
structure Closed (c : CommonResult) : Prop where
  /-- The beans that records of operations name. -/
  recorded : ∀ record ∈ c.registry.records, ∀ name action request response,
    record.descriptor = .operation name action request response →
      c.IsBean request ∧ c.IsBean response
  /-- The beans that plans of operations name. -/
  planned : ∀ e ∈ c.plan.endpoints, ∀ o ∈ e.operations,
    c.IsBean (.ofOption o.requestBean) ∧ c.IsBean (.ofOption o.responseBean)
  /-- What else is recorded of an operation. -/
  method : ∀ key, c.registry.HasRecord key .operation →
    c.registry.HasRecord key .soapBinding ∧ c.registry.HasRecord key .result
  endpoint : ∀ e ∈ c.plan.endpoints, c.registry.HasRecord (.text e.identifier) .service ∧
    c.registry.HasRecord (.text e.identifier) .soapBinding
  /-- The services that variant phases look up. -/
  service : ∀ e ∈ c.plan.endpoints, c.registry.lookup (.text e.identifier, .service) ≠ none
  /-- The beans that mappings of implicit faults name. -/
  carrier : ∀ record ∈ c.registry.records, ∀ name space bean implicit,
    record.descriptor = .faultMapping name space bean implicit → implicit.truthy = true →
      ∃ id, bean = .text id ∧ c.manifest.contains id = true
  /-- The faults that are thrown are those that were resolved. -/
  thrown : ∀ id, (∃ e ∈ c.plan.endpoints, ∃ o ∈ e.operations, id ∈ o.faults) ↔
    ∃ f ∈ c.plan.faults, f.identifier = id
  /-- The faults that have a mapping are those that were resolved. -/
  mapped : ∀ key, c.registry.HasRecord key .faultMapping ↔
    ∃ f ∈ c.plan.faults, key = .text f.identifier

end CommonResult

namespace Manifest

theorem contains_of_mem {m m' : Manifest} {ds : List Declaration} {d : Declaration}
    (h : m.addAll ds = .ok m') (hd : d ∈ ds) : m'.freeze.contains d.1 = true := by
  obtain ⟨p, hp, hkey⟩ := Ordered.exists_mem_of_get?_eq_some ((addAll_inv h).2 d hd)
  exact List.any_eq_true.2 ⟨_, hp, hkey⟩

end Manifest

theorem BeanMessage.exists_of_last {r : Resolver} {request : Bool} {ms : List BeanMessage}
    {id : String} (h : last r request ms = some id) : ∃ m ∈ ms, id = m.identifier r := by
  rw [last, Option.map_eq_some_iff] at h
  obtain ⟨m, hm, rfl⟩ := h
  exact ⟨m, (List.mem_filter.1 (List.mem_of_getLast? hm)).1, rfl⟩

namespace Generator

variable {g : Generator} {s s' : Session} {c : CommonResult}

/-- What is known of a common phase that returned: what was written, declared and planned. -/
structure Delivered (g : Generator) (c : CommonResult) : Prop where
  records : ∃ registry, Registry.empty.writeAll (g.model.writes g.resolver c.plan.faults) =
    .ok registry ∧ c.registry = registry.freeze
  declared : ∀ d ∈ g.model.declared g.resolver c.plan.faults, c.manifest.contains d.1 = true
  /-- Each identifier was declared with one name. -/
  named : ∀ d ∈ g.model.declared g.resolver c.plan.faults,
    ∀ d' ∈ g.model.declared g.resolver c.plan.faults, d.1 = d'.1 → d.2 = d'.2
  /-- The faults were resolved. -/
  resolved : resolveFaults g.resolver g.model.faults = .ok c.plan.faults
  /-- The plans are those of the endpoints. -/
  endpoints : c.plan.endpoints.map (·.endpoint) = g.model.endpoints
  /-- They describe them. -/
  describes : ∀ e ∈ c.plan.endpoints, e.Describes g.resolver

theorem delivered_of_returns (hm : g.model.Typed) (h : g.runCommon.Returns s c s') :
    g.Delivered c := by
  obtain ⟨registry, hwrites, hregistry, -⟩ := runCommon_inv h
  obtain ⟨plan, b, s₁, s₂, -, hplay, rfl, -⟩ := runCommon_play h
  obtain ⟨hresult, -⟩ := Site.play_returns.1 hplay
  obtain ⟨hall, hresolved, -⟩ := commonScript_ends hm (Script.ends_writes hresult)
  obtain ⟨-, hadded, hresolves⟩ := Site.play_declares hm hplay
  obtain ⟨hendpoints, hdescribes⟩ := commonScript_plans hm hresult
  rw [hall] at hwrites
  refine ⟨⟨registry, hwrites, hregistry⟩, fun d hd => Manifest.contains_of_mem hadded hd,
    fun d hd d' hd' hid => ?_, hresolved, hendpoints, hdescribes⟩
  exact Manifest.origin_eq hadded hd hd' hid (hresolves d hd).2 (hresolves d' hd').2

namespace Delivered

variable (hc : g.Delivered c)

include hc

theorem mem_of_record {record : Record} (h : record ∈ c.registry.records) :
    ∃ w ∈ g.model.writes g.resolver c.plan.faults, record = ⟨.text w.1, w.2⟩ := by
  obtain ⟨registry, hwrites, hregistry⟩ := hc.records
  rw [hregistry, Registry.records_freeze] at h
  exact Registry.mem_of_mem_records hwrites h

theorem hasRecord {key : String} {d : Descriptor}
    (h : (key, d) ∈ g.model.writes g.resolver c.plan.faults) :
    c.registry.HasRecord (.text key) d.kind := by
  obtain ⟨registry, hwrites, hregistry⟩ := hc.records
  obtain ⟨record, hrecord, hkey⟩ := Registry.hasRecord_of_mem hwrites h
  exact ⟨record, by rwa [hregistry, Registry.records_freeze], hkey⟩

/-- Without conflicts, a key has one descriptor of a kind. -/
theorem descriptor_eq (hm : g.model.Typed) (hconflicts : c.registry.conflicts = [])
    {key : String} {d d' : Descriptor} (hd : (key, d) ∈ g.model.writes g.resolver c.plan.faults)
    (hd' : (key, d') ∈ g.model.writes g.resolver c.plan.faults) (hkind : d.kind = d'.kind) :
    d = d' := by
  obtain ⟨registry, hwrites, hregistry⟩ := hc.records
  have hnil : registry.conflicts = [] := by
    rw [hregistry] at hconflicts
    cases registry <;> exact hconflicts
  have hsimple := g.model.simple_writes hm hc.resolved
  exact (Registry.reads_of_conflicts_nil hwrites hnil hsimple hd).eq
    (Registry.reads_of_conflicts_nil hwrites hnil hsimple hd') hkind

theorem mem_endpoints {e : EndpointPlan} (he : e ∈ c.plan.endpoints) :
    e.endpoint ∈ g.model.endpoints := by
  rw [← hc.endpoints]
  exact List.mem_map_of_mem he

theorem mem_operations {e : EndpointPlan} (he : e ∈ c.plan.endpoints) {o : OperationPlan}
    (ho : o ∈ e.operations) : o.operation ∈ e.endpoint.operations := by
  rw [← (hc.describes e he).operations]
  exact List.mem_map_of_mem ho

/-- The bean of an operation's last message is declared and described. -/
theorem isBean {e : Endpoint} (he : e ∈ g.model.endpoints) {o : Operation} (ho : o ∈ e.operations)
    (request : Bool) :
    c.IsBean (.ofOption (BeanMessage.last g.resolver request o.beanMessages)) := by
  cases hlast : BeanMessage.last g.resolver request o.beanMessages with
  | none => exact .inl rfl
  | some id =>
    obtain ⟨m, hm, rfl⟩ := BeanMessage.exists_of_last hlast
    refine .inr ⟨_, rfl, hc.declared (m.declaration g.resolver) ?_,
      hc.hasRecord (d := m.descriptor (o.methodKey (e.identifier g.resolver))) ?_⟩
    · exact List.mem_append_left _ (List.mem_map_of_mem (List.mem_flatMap.2
        ⟨e, he, List.mem_flatMap.2 ⟨o, ho, hm⟩⟩))
    · refine ServiceModel.mem_writes.2 (.inl ⟨e, he, .inr (.inr ⟨o, ho, ?_⟩)⟩)
      exact List.mem_append_left _ (List.mem_map_of_mem hm)

/-- An endpoint and its binding are described. -/
theorem endpoint_described {e : EndpointPlan} (he : e ∈ c.plan.endpoints) {d : Descriptor}
    (hd : d ∈ [e.endpoint.descriptor, e.endpoint.binding.descriptor]) :
    c.registry.HasRecord (.text e.identifier) d.kind := by
  rw [(hc.describes e he).identifier]
  refine hc.hasRecord (ServiceModel.mem_writes.2 (.inl ⟨e.endpoint, hc.mem_endpoints he, ?_⟩))
  rcases List.mem_pair.1 hd with rfl | rfl
  · exact .inl rfl
  · exact .inr (.inl rfl)

/-- The binding and the result of an operation are written right before and after it. -/
theorem method_described {e : Endpoint} (he : e ∈ g.model.endpoints) {o : Operation}
    (ho : o ∈ e.operations) {d : Descriptor}
    (hd : d ∈ [o.binding.descriptor, o.result.descriptor]) :
    c.registry.HasRecord (.text (o.methodKey (e.identifier g.resolver))) d.kind := by
  refine hc.hasRecord (ServiceModel.mem_writes.2 (.inl ⟨e, he, .inr (.inr ⟨o, ho, ?_⟩)⟩))
  rcases List.mem_pair.1 hd with rfl | rfl <;> simp [Operation.writesAt]

theorem operation_record {record : Record} (h : record ∈ c.registry.records)
    (hkind : record.kind = .operation) : ∃ e ∈ g.model.endpoints, ∃ o ∈ e.operations,
      record = ⟨.text (o.methodKey (e.identifier g.resolver)), o.descriptor g.resolver⟩ := by
  obtain ⟨w, hw, rfl⟩ := hc.mem_of_record h
  rcases ServiceModel.mem_writes.1 hw with
    ⟨e, he, rfl | rfl | ⟨o, ho, hw⟩⟩ | ⟨f, -, rfl⟩ | ⟨e, -, rfl⟩
  · cases hkind
  · cases hkind
  · rcases Operation.writesAt_cases hw with rfl | hother
    · exact ⟨e, he, o, ho, rfl⟩
    · simp [show w.2.kind = .operation from hkind] at hother
  · cases hkind
  · cases hkind

theorem faultMapping_record {record : Record} (h : record ∈ c.registry.records)
    (hkind : record.kind = .faultMapping) :
    ∃ f ∈ c.plan.faults, record = ⟨.text f.identifier, f.descriptor⟩ := by
  obtain ⟨w, hw, rfl⟩ := hc.mem_of_record h
  rcases ServiceModel.mem_writes.1 hw with
    ⟨e, he, rfl | rfl | ⟨o, ho, hw⟩⟩ | ⟨f, hf, rfl⟩ | ⟨e, -, rfl⟩
  · cases hkind
  · cases hkind
  · rcases Operation.writesAt_cases hw with rfl | hother
    · cases hkind
    · simp [show w.2.kind = .faultMapping from hkind] at hother
  · exact ⟨f, hf, rfl⟩
  · cases hkind

/-- The faults that operations of the model throw. -/
theorem thrown_iff (id : String) :
    (∃ e ∈ c.plan.endpoints, ∃ o ∈ e.operations, id ∈ o.faults) ↔
      ∃ f ∈ g.model.faults, id = g.resolver.resolveName f.name := by
  simp only [ServiceModel.faults, ← hc.endpoints, List.flatMap_map, List.mem_flatMap]
  constructor
  · rintro ⟨e, he, o, ho, hid⟩
    obtain ⟨f, hf, rfl⟩ := (((hc.describes e he).describes o ho).faults id).1 hid
    exact ⟨f, ⟨e, he, o.operation, hc.mem_operations he ho, hf⟩, rfl⟩
  · rintro ⟨f, ⟨e, he, o, ho, hf⟩, rfl⟩
    rw [← (hc.describes e he).operations] at ho
    obtain ⟨p, hp, rfl⟩ := List.mem_map.1 ho
    exact ⟨e, he, p, hp, (((hc.describes e he).describes p hp).faults _).2 ⟨f, hf, rfl⟩⟩

end Delivered

/-- **The common result is closed.**  If the common phase of a typed model returns, then all that
its result refers to is in it, whether or not there were conflicts. -/
theorem runCommon_closed (hm : g.model.Typed) (h : g.runCommon.Returns s c s') : c.Closed := by
  have hc := delivered_of_returns hm h
  constructor
  case recorded =>
    intro record hrecord name action request response hd
    obtain ⟨e, he, o, ho, rfl⟩ := hc.operation_record hrecord (by rw [Record.kind, hd]; rfl)
    obtain ⟨rfl, rfl, rfl, rfl⟩ := Descriptor.operation.inj hd
    exact ⟨hc.isBean he ho true, hc.isBean he ho false⟩
  case planned =>
    intro e he o ho
    rw [((hc.describes e he).describes o ho).request, ((hc.describes e he).describes o ho).response]
    have hmem := hc.mem_operations he ho
    exact ⟨hc.isBean (hc.mem_endpoints he) hmem true, hc.isBean (hc.mem_endpoints he) hmem false⟩
  case method =>
    rintro key ⟨record, hrecord, rfl, hkind⟩
    obtain ⟨e, he, o, ho, rfl⟩ := hc.operation_record hrecord hkind
    have hbinding := hc.method_described he ho (d := o.binding.descriptor) (by simp)
    have hresult := hc.method_described he ho (d := o.result.descriptor) (by simp)
    exact ⟨hbinding, hresult⟩
  case endpoint =>
    intro e he
    have hendpoint := hc.endpoint_described he (d := e.endpoint.descriptor) (by simp)
    have hbinding := hc.endpoint_described he (d := e.endpoint.binding.descriptor) (by simp)
    exact ⟨hendpoint, hbinding⟩
  case service =>
    intro e he
    have hid : e.identifier ∈ g.model.endpointIds g.resolver := by
      rw [(hc.describes e he).identifier]
      exact List.mem_map_of_mem (hc.mem_endpoints he)
    rw [(service_of_mem hm h hid).lookup]
    exact Option.some_ne_none _
  case carrier =>
    intro record hrecord name space bean implicit hd himplicit
    obtain ⟨f, hf, rfl⟩ := hc.faultMapping_record hrecord (by rw [Record.kind, hd]; rfl)
    obtain ⟨rfl, rfl, rfl, rfl⟩ := Descriptor.faultMapping.inj hd
    refine ⟨f.carrier, rfl, hc.declared f.declaration ?_⟩
    exact List.mem_append_right _ (List.mem_append_left _
      (List.mem_map_of_mem (List.mem_filter.2 ⟨hf, himplicit⟩)))
  case thrown =>
    intro id
    rw [hc.thrown_iff, resolveFaults_identifiers hm.faults hc.resolved]
  case mapped =>
    intro key
    constructor
    · rintro ⟨record, hrecord, rfl, hkind⟩
      obtain ⟨f, hf, rfl⟩ := hc.faultMapping_record hrecord hkind
      exact ⟨f, hf, rfl⟩
    · rintro ⟨f, hf, rfl⟩
      exact hc.hasRecord (ServiceModel.mem_writes.2 (.inr (.inl ⟨f, hf, rfl⟩)))

/-- A service with two operations of one name, which throw a fault whose bean is generated. -/
def bookingService : Generator where
  model := {
    endpointGroups := [(.text "urn:fair", [{
      qualifiedName := .text "fair.Booking", targetNamespace := .text "urn:fair"
      operations := [booking "urn:fair#book", booking "urn:fair#again"] }])]
    schemaGroups := [] }
  settings := { runId := "run", outputDir := ⟨"", ["out"]⟩ }
  resolver := ⟨[(["fair"], ["client", "fair"])]⟩
  renderer := .shipped
  compiler := ⟨fun _ => Run.fail (.of .compileBeforeCommon)⟩
where
  booking (action : String) : Operation :=
    { name := .text "book", action := .text action
      messages := [
        .bean { wrapper := .request, elementName := .text "book", space := .text "urn:fair"
                beanName := .text "fair.Book" },
        .fault { qualifiedName := .text "fair.SoldOut", elementName := .text "soldOut"
                 space := .text "urn:fair", implicitBeanName := .text "fair.SoldOutInfo" }] }

theorem runCommon_closed_bookings :
    bookingService.model.Typed ∧ ∃ c s', bookingService.runCommon.Returns {} c s' ∧
      c.registry.conflicts ≠ [] ∧ c.Closed := by
  have hm : bookingService.model.Typed := by decide
  obtain ⟨c, s', h, hc⟩ := @Run.returns_of_check _ bookingService.runCommon {}
    (fun c => !c.registry.conflicts.isEmpty) (by decide +kernel)
  refine ⟨hm, c, s', h, fun hnil => ?_, runCommon_closed hm h⟩
  simp [hnil] at hc

end Generator

end SoapStubs
