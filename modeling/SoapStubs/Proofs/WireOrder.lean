import SoapStubs.Proofs.Contents
import SoapStubs.Proofs.Overwriting
import SoapStubs.Proofs.Recording

/-!
# The order of properties on the wire

A client writes the properties of a bean by position.  Their order stands in two places that are
filled independently: in the descriptor of the bean's wrapper, and in the source of the bean.  Both
take it from the message, whose elements are listed in the document or derived from the parameters
and the result of its operation.  Several messages may have one bean; then the last one counts in
both places.

* `Operation.wireOrder` is the order of a message in terms of its operation, and
  `ServiceModel.wired_ofValue` says that a model of a document has its messages in this order;
* a `Wiring` is what a descriptor or a rendering says about a bean, and `commonScript_wires` says
  that every message leads to a descriptor and a source with the same wiring;
* `Site.performAll_renderings`: taking steps renders their sources, in order;
* `Generator.runCommon_wires` is the theorem.
-/

namespace SoapStubs

/-! ### The order of a message -/

namespace Operation

/-- The names of the parameters that travel one way or both ways, and not in a header. -/
def travelling (o : Operation) (way : ParameterMode) : List Value :=
  (o.parameters.filter fun p => !p.header && (p.mode == way || p.mode == .both)).map (·.elementName)

/-- The names of the properties of a message: the elements that it lists or, for a call, the
parameters that travel with it, behind the result if there is one outside of a header. -/
def wireOrder (o : Operation) (m : BeanMessage) : List Value :=
  match m.wrapper with
  | .request | .response => m.children.map (·.elementName)
  | .rpcInput => o.travelling .request
  | .rpcOutput =>
    (if o.result.type.isSome && !o.result.header then [o.result.name] else []) ++
      o.travelling .response

/-- The messages have their elements in this order. -/
def Wired (o : Operation) : Prop :=
  ∀ m ∈ o.beanMessages, m.children.map (·.elementName) = o.wireOrder m

end Operation

section

variable {v : Value} {s : MessageScope} {o : Operation}

/-- A message that was read has its elements in the order of any operation with the parameters and
the result that it was read with. -/
def Message.WiredIn (s : MessageScope) (message : Message) : Prop :=
  ∀ m, message.bean? = some m → ∀ o : Operation, o.parameters = s.parameters →
    o.result = s.result → m.children.map (·.elementName) = o.wireOrder m

theorem BeanMessage.wired_rpcInput (operation space bean : Value) :
    ((rpcInput operation space bean o.parameters).children.map (·.elementName)) =
      o.wireOrder (rpcInput operation space bean o.parameters) := by
  have hmode : ∀ mode : ParameterMode, (mode != .response) = (mode == .request || mode == .both) :=
    fun mode => by cases mode <;> rfl
  simp only [rpcInput, Operation.wireOrder, Operation.travelling, List.map_map, hmode]
  rfl

theorem BeanMessage.wired_rpcOutput (operation space bean : Value) :
    ((rpcOutput operation space bean o.result o.parameters).children.map (·.elementName)) =
      o.wireOrder (rpcOutput operation space bean o.result o.parameters) := by
  have hmode : ∀ mode : ParameterMode, (mode != .request) = (mode == .response || mode == .both) :=
    fun mode => by cases mode <;> rfl
  have hresult : ((if o.result.isVoid || o.result.header then []
      else [⟨o.result.name, o.result.type⟩] : List ChildElement).map (·.elementName)) =
        if o.result.type.isSome && !o.result.header then [o.result.name] else [] := by
    unfold Result.isVoid
    cases o.result.type <;> cases o.result.header <;> rfl
  simp only [rpcOutput, Operation.wireOrder, Operation.travelling, List.map_append, hresult,
    List.map_map, hmode]
  rfl

theorem Message.wired_ofValue (s : MessageScope) (v : Value) :
    Gives (Message.WiredIn s) (Message.ofValue s v) := by
  unfold Message.ofValue
  refine .andThen fun _ => .andThen fun kind => .andThen fun space => ?_
  cases kind with
  | requestWrapper | responseWrapper =>
    refine .andThen fun _ => .andThen fun _ => .andThen fun _ => .andThen fun children => .ok ?_
    rintro m ⟨⟩ o - -
    rfl
  | rpcInput =>
    refine .andThen fun _ => .andThen fun bean => .ok ?_
    rintro m ⟨⟩ o hparameters -
    rw [← hparameters]
    exact BeanMessage.wired_rpcInput _ _ _
  | rpcOutput =>
    refine .andThen fun _ => .andThen fun bean => .ok ?_
    rintro m ⟨⟩ o hparameters hresult
    rw [← hparameters, ← hresult]
    exact BeanMessage.wired_rpcOutput _ _ _
  | fault =>
    refine .andThen fun explicit => .andThen fun _ => .andThen fun _ => .andThen fun _ => ?_
    have hfault : ∀ f, Message.WiredIn s (.fault f) := by
      intro f m hm
      cases hm
    dsimp only
    split <;> exact .andThen fun _ => .andThen fun _ => .andThen fun _ => .ok (hfault _)

theorem Operation.wired_ofValue (space : Value) (package : String) (default : SoapBinding)
    (v : Value) : Gives Operation.Wired (Operation.ofValue space package default v) := by
  unfold Operation.ofValue
  refine .andThen fun name => .andThen fun _ => .andThen fun _ => .andThen fun parameters => ?_
  refine .andThen fun _ => .andThen fun result => .andThen fun wire => .andThen fun _ => ?_
  refine .andThen fun _ => (Gives.mapM fun w _ => Message.wired_ofValue _ w).bind
    fun messages hmessages => ?_
  refine .andThen fun _ => .andThen fun _ => .andThen fun _ => .andThen fun _ => .andThen fun _ =>
    .ok ?_
  intro m hm
  obtain ⟨message, hmessage, hbean⟩ := List.mem_filterMap.1 hm
  exact hmessages message hmessage m hbean _ rfl rfl

theorem Endpoint.wired_ofValue (v : Value) :
    Gives (fun e : Endpoint => ∀ o ∈ e.operations, o.Wired) (Endpoint.ofValue v) := by
  unfold Endpoint.ofValue
  refine .andThen fun space => .andThen fun _ => .andThen fun binding => .andThen fun _ => ?_
  refine .andThen fun package => .andThen fun _ => .andThen fun _ => ?_
  refine (Gives.mapM fun w _ => Operation.wired_ofValue _ _ _ w).bind fun _ hoperations => ?_
  exact .andThen fun _ => .andThen fun _ => .ok hoperations

/-- **A model of a document has its messages in the order of the wire.** -/
theorem ServiceModel.wired_ofValue (v : Value) :
    Gives (fun m : ServiceModel => ∀ e ∈ m.endpoints, ∀ o ∈ e.operations, o.Wired)
      (ServiceModel.ofValue v) := by
  unfold ServiceModel.ofValue
  refine .andThen fun _ => .andThen fun _ => (gives_groupM fun w _ => Endpoint.wired_ofValue w).bind
    fun endpoints hendpoints => ?_
  refine .andThen fun _ => .andThen fun _ => .andThen fun _ => ?_
  refine .andThen fun _ => .andThen fun _ => .andThen fun _ => .ok fun e he => ?_
  obtain ⟨group, hgroup, he⟩ := List.mem_flatten.1 he
  obtain ⟨p, hp, rfl⟩ := List.mem_map.1 hgroup
  exact hendpoints p hp e he

end

/-! ### What is said about a bean -/

/-- What is said about a bean: its class and the names of its properties, in order, where they can
be read. -/
structure Wiring where
  /-- The class. -/
  bean : Option String
  names : Option (List Value)

/-- The order of the properties of a wrapper. -/
def Descriptor.propertyOrder? : Descriptor → Option (List Value)
  | .wrapper _ _ _ _ (.tuple names) => some names
  | _ => none

/-- What a descriptor says about a bean, if it is that of a wrapper. -/
def Registry.Write.wiring? (w : Registry.Write) : Option Wiring :=
  if w.2.kind = .wrapper then some ⟨some w.1, w.2.propertyOrder?⟩ else none

/-- The class that bindings of a template are for. -/
def boundIdentifier? (bindings : List (String × Value)) : Option String :=
  (Ordered.get? bindings "identifier").bind Value.text?

/-- The names of the properties that bindings of a template have. -/
def boundProperties? (bindings : List (String × Value)) : Option (List Value) :=
  match Ordered.get? bindings "properties" with
  | some (.list properties) => properties.mapM (·.field? "name")
  | _ => none

/-- Is the template one of those for the beans of messages? -/
def isBeanTemplate (template : String) : Bool :=
  template == "request-bean" || template == "response-bean"

/-- What the bindings of a template say about a bean, if the template is for one of a message. -/
def wiringOf? (template : String) (bindings : List (String × Value)) : Option Wiring :=
  if isBeanTemplate template then some ⟨boundIdentifier? bindings, boundProperties? bindings⟩
  else none

/-- What a rendering says about a bean. -/
def Rendering.wiring? (x : Rendering) : Option Wiring := wiringOf? x.template x.bindings

def Rendering.isOf (bean : String) (x : Rendering) : Bool :=
  isBeanTemplate x.template && boundIdentifier? x.bindings == some bean

def Rendering.lastOf (bean : String) (xs : List Rendering) : Option Rendering :=
  (xs.filter (isOf bean)).getLast?

/-- What a step says about a bean: by a descriptor on the left, by a source on the right. -/
def Step.wiring? (site : Site) : Step → Option (Wiring ⊕ Wiring)
  | .record key d => (Registry.Write.wiring? (key, d)).map .inl
  | .emit source => (wiringOf? source.template (site.bindings source)).map .inr
  | _ => none

/-- What there is to say about the bean of a message. -/
def BeanMessage.wiring (r : Resolver) (m : BeanMessage) : Wiring :=
  ⟨some (m.identifier r), some (m.children.map (·.elementName))⟩

/-- What is said about the bean of a message: once by a descriptor and once by a source. -/
def BeanMessage.wirings (r : Resolver) (m : BeanMessage) : List (Wiring ⊕ Wiring) :=
  [.inl (m.wiring r), .inr (m.wiring r)]

/-! ### What the common phase says -/

section

open Script

variable {r : Resolver} {site : Site} {key : String} {out : List (Wiring ⊕ Wiring)}

/-- Steps that a view does not see amount to nothing. -/
theorem Script.Yields.eq_nil {α γ : Type} {p : Step → Option γ} {x : Script α} {out : List γ}
    {a : α} (h : x.Yields p out a) (hx : x.Every fun step => p step = none) : out = [] := by
  rw [← h.steps]
  exact List.filterMap_eq_nil_iff.2 hx

theorem Resolver.resolve_value {v : Value} {id : String} (h : r.resolve v = .ok id) :
    id = r.resolveName v.nameText := by
  cases v with
  | text s =>
    by_cases hs : s = ""
    · subst hs
      cases h
    · rw [r.resolve_ok (rfl : Named.qualifiedName (Value.text s) = .text s) hs] at h
      exact (Except.ok.inj h).symm
  | null | bool | int | float | bytes | date | moment | list | tuple | map | set | loop => cases h

/-- The bindings of a message's elements have their names. -/
theorem propertyBindings_names {children : List ChildElement} {variant : Variant}
    {properties : Value} (h : propertyBindings r children variant = .ok properties) :
    ∃ items, properties = .list items ∧
      items.mapM (·.field? "name") = some (children.map (·.elementName)) := by
  obtain ⟨items, hitems, rfl⟩ := return_eq_ok.1 h
  refine ⟨items, rfl, ?_⟩
  clear h
  induction children generalizing items with
  | nil =>
    cases hitems
    rfl
  | cons child children ih =>
    obtain ⟨first, hfirst, rest, hrest, rfl⟩ := mapM_cons_eq_ok.1 hitems
    obtain ⟨type, -, rfl⟩ := return_eq_ok.1 hfirst
    rw [List.mapM_cons, ih _ hrest]
    rfl

/-- A message leads to a descriptor and a source that say the same about its bean. -/
theorem beanScript_wires {m : BeanMessage} {bean : String}
    (h : (beanScript r key m).Yields (Step.wiring? site) out bean) :
    out = m.wirings r := by
  rw [beanScript] at h
  split at h
  · cases h.result
  simp only [declare, record, emit, yields_lift_bind, yields_take_bind, yields_pure] at h
  obtain ⟨id, hid, back, ⟨back', ⟨properties, hproperties, back'', ⟨rfl, -⟩, rfl⟩, rfl⟩, rfl⟩ := h
  obtain rfl := Resolver.resolve_value hid
  obtain ⟨items, rfl, hnames⟩ := propertyBindings_names hproperties
  have hdescribed : Registry.Write.wiring? (r.resolveName m.beanName.nameText, m.descriptor key) =
      some (m.wiring r) := rfl
  have hrendered : ∀ category, wiringOf? (if m.wrapper.isRequest then "request-bean"
      else "response-bean") (site.bindings {
        category
        template := if m.wrapper.isRequest then "request-bean" else "response-bean"
        identifier := r.resolveName m.beanName.nameText
        bindings := [("operation", .text key), ("element_name", m.elementName),
          ("namespace", m.space), ("properties", .list items)] }) = some (m.wiring r) := by
    intro category
    have htemplate : isBeanTemplate
        (if m.wrapper.isRequest then "request-bean" else "response-bean") = true := by
      cases m.wrapper.isRequest <;> rfl
    -- the bindings of the bean come on top of those that every source has, and hide no class
    rw [wiringOf?, if_pos htemplate, BeanMessage.wiring, ← hnames]
    rfl
  simp only [Step.wiring?, hdescribed, hrendered]
  rfl

theorem messagesScript_wires {ms : List Message} {found outcome : MessageOutcome}
    (h : (messagesScript r key found ms).Yields (Step.wiring? site) out outcome) :
    out = (ms.filterMap Message.bean?).flatMap (BeanMessage.wirings r) := by
  induction ms generalizing found out with
  | nil => exact (yields_pure.1 h).1
  | cons m ms ih =>
    cases m with
    | fault f =>
      simp only [messagesScript, yields_lift_bind] at h
      obtain ⟨id, -, h⟩ := h
      exact (ih h :)
    | bean m =>
      obtain ⟨bean, front, back, hbean, h₁, rfl⟩ := yields_bind.1 h
      rw [beanScript_wires hbean, ih h₁]
      rfl

theorem operationScript_wires {endpoint : String} {o : Operation} {plan : OperationPlan}
    (h : (operationScript r endpoint o).Yields (Step.wiring? site) out plan) :
    out = o.beanMessages.flatMap (BeanMessage.wirings r) := by
  obtain ⟨found, front, back, hmessages, hrest, rfl⟩ := yields_bind.1 h
  have hback : back = [] := by
    have hparameters (key : String) : (parametersScript key 0 o.parameters).Every
        fun step => step.wiring? site = none := parametersScript_every fun _ _ _ => rfl
    refine hrest.eq_nil ?_
    refine every_bind (every_take rfl) fun _ _ => every_bind (every_take rfl) fun _ _ => ?_
    refine every_bind (every_take rfl) fun _ _ => ?_
    split
    · refine every_bind (every_take rfl) fun _ _ => ?_
      exact every_bind (hparameters _) fun _ _ => every_pure _
    · exact every_bind (hparameters _) fun _ _ => every_pure _
  rw [hback, List.append_nil, messagesScript_wires hmessages]
  rfl

theorem endpointScript_wires {e : Endpoint} {plan : EndpointPlan}
    (h : (endpointScript r e).Yields (Step.wiring? site) out plan) :
    out = e.operations.flatMap fun o => o.beanMessages.flatMap (BeanMessage.wirings r) := by
  simp only [endpointScript, record, yields_lift_bind, yields_take_bind] at h
  obtain ⟨id, -, back, ⟨back', h, rfl⟩, rfl⟩ := h
  obtain ⟨plans, front, back, hoperations, hpure, rfl⟩ := yields_bind.1 h
  obtain ⟨rfl, -⟩ := yields_pure.1 hpure
  obtain ⟨rfl, -⟩ := yields_each _ (fun _ _ => True) hoperations fun o _ out plan h =>
    ⟨operationScript_wires h, trivial⟩
  exact List.append_nil _

theorem faultScript_unwired (f : ResolvedFault) :
    (faultScript r f).Every fun step => step.wiring? site = none := by
  unfold faultScript
  split
  · refine every_bind ?_ fun _ _ => every_take rfl
    refine every_bind (every_take rfl) fun _ _ => every_bind (every_lift _) fun _ _ => ?_
    exact every_take rfl
  · exact every_take rfl

theorem typeScript_unwired (m : ServiceModel) (t : TypeDefinition) :
    (typeScript r m t).Every fun step => step.wiring? site = none := by
  have htemplate : ¬isBeanTemplate t.kind.bindingTemplate = true := by cases t.kind <;> decide
  refine typeScript_every (fun _ _ => rfl) fun id bindings _ _ => ?_
  rw [Step.wiring?, wiringOf?, if_neg htemplate]
  rfl

/-- **Every message leads to a descriptor and a source that say the same about its bean**, and
nothing else in the common phase says anything about the beans of messages. -/
theorem commonScript_wires {m : ServiceModel} {plan : CommonPlan}
    (h : (commonScript r m).Yields (Step.wiring? site) out plan) :
    out = m.beanMessages.flatMap (BeanMessage.wirings r) := by
  obtain ⟨endpoints, front, back, hendpoints, hrest, rfl⟩ := yields_bind.1 h
  obtain ⟨rfl, -⟩ := yields_each _ (fun _ _ => True) hendpoints fun e _ out plan h =>
    ⟨endpointScript_wires h, trivial⟩
  have hback : back = [] := by
    refine hrest.eq_nil ?_
    refine every_bind (every_logged fun _ => rfl) fun faults _ => ?_
    refine every_bind (every_each fun f _ => faultScript_unwired f) fun _ _ => ?_
    refine every_bind (every_each fun t _ => typeScript_unwired m t) fun _ _ => ?_
    refine every_bind (every_each fun e _ => ?_) fun _ _ => every_pure _
    exact every_bind (every_lift _) fun _ _ => every_take rfl
  rw [hback, List.append_nil, ServiceModel.beanMessages]
  simp only [List.flatMap_assoc]

end

/-! ### What is rendered -/

namespace Site

variable {site : Site} {b b' : Bench} {s s' : Session} {steps : List Step}

/-- The template and the bindings that a source is rendered with. -/
def filling (site : Site) (source : Source) : String × List (String × Value) :=
  (source.template, site.bindings source)

/-- A step renders its source, if it has one. -/
theorem perform_renderings {step : Step} (h : (site.perform b step).Returns s b' s') :
    ∃ new, s'.renderings = s.renderings ++ new ∧
      new.map (fun x => (x.template, x.bindings)) = step.source?.toList.map site.filling := by
  cases takes_of_perform h with
  | emit => exact ⟨_, rfl, rfl⟩
  | declare | record | note => exact ⟨[], (List.append_nil _).symm, rfl⟩

/-- Steps render their sources one after another. -/
theorem performAll_renderings (h : (site.performAll b steps).Returns s b' s') :
    ∃ new, s'.renderings = s.renderings ++ new ∧
      new.map (fun x => (x.template, x.bindings)) =
        (steps.filterMap Step.source?).map site.filling := by
  induction steps generalizing b s with
  | nil =>
    obtain ⟨-, rfl⟩ := Run.returns_pure.1 h
    exact ⟨[], (List.append_nil _).symm, rfl⟩
  | cons step steps ih =>
    obtain ⟨b₁, s₁, hstep, h⟩ := Run.returns_bind.1 h
    obtain ⟨first, hfirst, hfillings⟩ := perform_renderings hstep
    obtain ⟨rest, hrest, hfillings'⟩ := ih h
    refine ⟨first ++ rest, by rw [hrest, hfirst, List.append_assoc], ?_⟩
    rw [List.map_append, hfillings, hfillings', ← List.map_append]
    cases hsource : step.source? <;> simp [hsource]

end Site

/-- If the common phase returns, the sources of its script were rendered. -/
theorem Generator.runCommon_renderings {g : Generator} {s s' : Session} {c : CommonResult}
    (h : g.runCommon.Returns s c s') : ∃ new, s'.renderings = s.renderings ++ new ∧
      new.map (fun x => (x.template, x.bindings)) =
        ((commonScript g.resolver g.model).steps.filterMap Step.source?).map g.site.filling := by
  obtain ⟨c₁, s₁, hphase, h₁⟩ := Run.returns_bind.1 h
  obtain ⟨⟨⟩, s₂, hmodify, h₂⟩ := Run.returns_bind.1 h₁
  cases hmodify
  obtain ⟨⟨⟩, s₃, hnote, h₃⟩ := Run.returns_bind.1 h₂
  cases hnote
  obtain ⟨-, rfl⟩ := Run.returns_pure.1 h₃
  obtain ⟨inside, henter⟩ : ∃ inside,
      s.context.enter "common" [("run_id", .text g.settings.runId)] = .ok inside := ⟨_, rfl⟩
  -- around its body, the phase changes the log, the context and the common result only
  obtain ⟨s₄, hbody, rfl⟩ := Run.phase_returns_inv henter hphase
  obtain ⟨plan, b, hplay, -⟩ := commonBody_returns.1 hbody
  obtain ⟨new, hnew, hfillings⟩ := Site.performAll_renderings (Site.play_returns.1 hplay).2
  exact ⟨new, hnew, hfillings⟩

/-! ### The theorem -/

/-- The last of the items that a view puts into a class has the last view in that class. -/
theorem getLast?_filter_bind {α β : Type} (f : α → Option β) (q : β → Bool) (l : List α) :
    (l.filter fun a => (f a).any q).getLast?.bind f = ((l.filterMap f).filter q).getLast? := by
  induction l using List.reverseRecOn with
  | nil => rfl
  | append_singleton l a ih =>
    rw [List.filter_append, List.filterMap_append, List.filter_append]
    cases ha : f a with
    | none => simpa [ha] using ih
    | some b =>
      by_cases hq : q b = true
      · simp [ha, hq]
      · simpa [ha, hq] using ih

namespace ServiceModel

/-- The messages that are carried by beans, each with its operation, in the order of the model. -/
def carried (m : ServiceModel) : List (Operation × BeanMessage) :=
  m.endpoints.flatMap fun e => e.operations.flatMap fun o => o.beanMessages.map fun b => (o, b)

/-- The last message with the bean of a class. -/
def lastCarried (r : Resolver) (m : ServiceModel) (bean : String) :
    Option (Operation × BeanMessage) :=
  (m.carried.filter fun p => p.2.identifier r == bean).getLast?

theorem map_carried (m : ServiceModel) : m.carried.map Prod.snd = m.beanMessages := by
  simp [carried, beanMessages, List.map_flatMap, Function.comp_def]

end ServiceModel

/-- What is to be said about the bean of a message, in terms of its operation. -/
def Wiring.ofCarried (r : Resolver) (p : Operation × BeanMessage) : Wiring :=
  ⟨some (p.2.identifier r), some (p.1.wireOrder p.2)⟩

theorem Registry.Write.any_wiring? (w : Registry.Write) (bean : String) :
    (w.wiring?.any fun x => x.bean == some bean) = (w.slot == (bean, .wrapper)) := by
  unfold wiring? slot
  split_ifs with hkind
  · rw [Bool.eq_iff_iff]
    simp [hkind]
  · simp [hkind]

theorem Rendering.any_wiring? (x : Rendering) (bean : String) :
    (x.wiring?.any fun w => w.bean == some bean) = x.isOf bean := by
  unfold wiring? wiringOf? isOf
  split_ifs with htemplate
  · simp [htemplate]
  · simp [htemplate]

theorem Registry.Write.propertyOrder?_eq (w : Registry.Write) {x : Wiring}
    (h : w.wiring? = some x) : w.2.propertyOrder? = x.names := by
  unfold wiring? at h
  split_ifs at h
  cases h
  rfl

theorem Rendering.boundProperties?_eq (x : Rendering) {w : Wiring} (h : x.wiring? = some w) :
    boundProperties? x.bindings = w.names := by
  unfold wiring? wiringOf? at h
  split_ifs at h
  cases h
  rfl

theorem getLeft?_wirings (r : Resolver) (ms : List BeanMessage) :
    (ms.flatMap (BeanMessage.wirings r)).filterMap Sum.getLeft? =
      ms.map (BeanMessage.wiring r) := by
  induction ms with
  | nil => rfl
  | cons m ms ih => exact congrArg (m.wiring r :: ·) ih

theorem getRight?_wirings (r : Resolver) (ms : List BeanMessage) :
    (ms.flatMap (BeanMessage.wirings r)).filterMap Sum.getRight? =
      ms.map (BeanMessage.wiring r) := by
  induction ms with
  | nil => rfl
  | cons m ms ih => exact congrArg (m.wiring r :: ·) ih

/-- What steps say by their descriptors. -/
theorem Step.wirings_write? (site : Site) (steps : List Step) :
    (steps.filterMap Step.write?).filterMap Registry.Write.wiring? =
      (steps.filterMap (Step.wiring? site)).filterMap Sum.getLeft? := by
  rw [List.filterMap_filterMap, List.filterMap_filterMap]
  refine List.filterMap_congr fun step _ => ?_
  cases step with
  | record key d => cases hw : Registry.Write.wiring? (key, d) <;> simp [write?, wiring?, hw]
  | emit source =>
    cases hw : wiringOf? source.template (site.bindings source) <;> simp [write?, wiring?, hw]
  | declare | note => rfl

/-- What steps say by their sources. -/
theorem Step.wirings_source? (site : Site) (steps : List Step) :
    ((steps.filterMap Step.source?).map site.filling).filterMap (fun p => wiringOf? p.1 p.2) =
      (steps.filterMap (Step.wiring? site)).filterMap Sum.getRight? := by
  rw [List.filterMap_map, List.filterMap_filterMap, List.filterMap_filterMap]
  refine List.filterMap_congr fun step _ => ?_
  cases step with
  | record key d => cases hw : Registry.Write.wiring? (key, d) <;> simp [source?, wiring?, hw]
  | emit source =>
    cases hw : wiringOf? source.template (site.bindings source) <;>
      simp [source?, wiring?, Site.filling, hw]
  | declare | note => rfl

namespace Generator

variable {g : Generator} {s s' : Session} {c : CommonResult} {document : Value}

/-- The metadata and the sources of a common phase have the properties of beans in one order. -/
structure Wires (g : Generator) (s s' : Session) (c : CommonResult) : Prop where
  /-- The beans are rendered message by message, each with its properties in the order of the
  wire. -/
  rendered : ∃ new, s'.renderings = s.renderings ++ new ∧
    new.filterMap Rendering.wiring? = g.model.carried.map (Wiring.ofCarried g.resolver)
  /-- The bean of a message has a descriptor and a last rendering, and the properties of both are
  in the order of the last message with this bean. -/
  agree : ∀ p ∈ g.model.carried, ∃ o m d x,
    g.model.lastCarried g.resolver (p.2.identifier g.resolver) = some (o, m) ∧
    c.registry.get? (.text (p.2.identifier g.resolver)) .wrapper = .ok (some d) ∧
    Rendering.lastOf (p.2.identifier g.resolver) s'.renderings = some x ∧
    d.propertyOrder? = some (o.wireOrder m) ∧ boundProperties? x.bindings = some (o.wireOrder m)

/-- What the messages of a model of a document lead to. -/
theorem wirings_carried (hdoc : ServiceModel.ofValue document = .ok g.model) :
    g.model.beanMessages.map (BeanMessage.wiring g.resolver) =
      g.model.carried.map (Wiring.ofCarried g.resolver) := by
  rw [← g.model.map_carried, List.map_map]
  refine List.map_congr_left fun p hp => ?_
  obtain ⟨e, he, hp⟩ := List.mem_flatMap.1 hp
  obtain ⟨o, ho, hp⟩ := List.mem_flatMap.1 hp
  obtain ⟨m, hm, rfl⟩ := List.mem_map.1 hp
  have hwired := ServiceModel.wired_ofValue document g.model hdoc e he o ho m hm
  rw [Function.comp_apply, BeanMessage.wiring, hwired, Wiring.ofCarried]

/-- Where a list of items has the wirings of the messages, the last item about a bean has the wiring
of the last message with this bean. -/
theorem exists_last_wiring {α : Type} {f : α → Option Wiring} {l : List α} {bean : String}
    {p : Operation × BeanMessage}
    (hl : l.filterMap f = g.model.carried.map (Wiring.ofCarried g.resolver))
    (hp : g.model.lastCarried g.resolver bean = some p) :
    ∃ a, (l.filter fun a => (f a).any fun w => w.bean == some bean).getLast? = some a ∧
      f a = some (Wiring.ofCarried g.resolver p) := by
  have hclass : ((fun w : Wiring => w.bean == some bean) ∘ Wiring.ofCarried g.resolver) =
      fun q => q.2.identifier g.resolver == bean := by
    funext q
    simp [Wiring.ofCarried]
  have hlast := getLast?_filter_bind f (fun w => w.bean == some bean) l
  rw [hl, List.filter_map, List.getLast?_map, hclass,
    show (g.model.carried.filter _).getLast? = some p from hp] at hlast
  exact Option.bind_eq_some_iff.1 hlast

/-- **The order of properties on the wire**: for every document that gives the model and every
common phase that returns, metadata and sources agree about it. -/
theorem runCommon_wires (hdoc : ServiceModel.ofValue document = .ok g.model)
    (h : g.runCommon.Returns s c s') : g.Wires s s' c := by
  obtain ⟨registry, hwrites, hregistry, hresult⟩ := runCommon_inv h
  obtain ⟨new, hnew, hfillings⟩ := runCommon_renderings h
  have hwires := commonScript_wires (Script.yields_steps (Step.wiring? g.site) hresult)
  have hdescribed : (commonScript g.resolver g.model).writes.filterMap Registry.Write.wiring? =
      g.model.carried.map (Wiring.ofCarried g.resolver) := by
    rw [Script.writes, Step.wirings_write? g.site, hwires, getLeft?_wirings, wirings_carried hdoc]
  have hrendered : new.filterMap Rendering.wiring? =
      g.model.carried.map (Wiring.ofCarried g.resolver) := by
    calc new.filterMap Rendering.wiring?
        = (new.map fun x => (x.template, x.bindings)).filterMap fun p => wiringOf? p.1 p.2 := by
          rw [List.filterMap_map]
          rfl
      _ = g.model.carried.map (Wiring.ofCarried g.resolver) := by
          rw [hfillings, Step.wirings_source?, hwires, getRight?_wirings, wirings_carried hdoc]
  refine ⟨⟨new, hnew, hrendered⟩, fun p hp => ?_⟩
  generalize hbean : p.2.identifier g.resolver = bean
  obtain ⟨⟨o, m⟩, hlast⟩ : ∃ q, g.model.lastCarried g.resolver bean = some q := by
    rw [ServiceModel.lastCarried, ← Option.isSome_iff_exists, List.getLast?_isSome]
    exact List.ne_nil_of_mem (List.mem_filter.2 ⟨hp, beq_iff_eq.2 hbean⟩)
  obtain ⟨w, hw, hwiring⟩ := exists_last_wiring hdescribed hlast
  obtain ⟨x, hx, hxwiring⟩ := exists_last_wiring hrendered hlast
  simp only [Registry.Write.any_wiring?] at hw
  simp only [Rendering.any_wiring?] at hx
  refine ⟨o, m, w.2, x, hlast, ?_, ?_, w.propertyOrder?_eq hwiring, x.boundProperties?_eq hxwiring⟩
  · have hlookup : c.registry.lookup (.text bean, .wrapper) = some w.2 := by
      rw [hregistry, Registry.lookup_freeze, Registry.lookup_writeAll hwrites, Registry.get?_ledger,
        Registry.lastWrite, hw]
      rfl
    exact congrArg Except.ok hlookup
  · rw [Rendering.lastOf, hnew, List.filter_append, List.getLast?_append, hx]
    rfl

/-- A document with a call whose input and output have one bean. -/
def tillDocument : Value :=
  .record [("endpoints", .list [.record [
    ("qualified_name", .text "till.Till"), ("namespace", .text "urn:till"),
    ("operations", .list [.record [("name", .text "pay"),
      ("parameters", .list [
        .record [("element_name", .text "token"), ("header", .bool true)],
        .record [("element_name", .text "coin")],
        .record [("element_name", .text "note"), ("mode", .text "inout")],
        .record [("element_name", .text "change"), ("mode", .text "out")]]),
      ("result", .record [("type", .text "int")]),
      ("messages", .list [
        .record [("kind", .text "rpc-input"), ("bean_name", .text "till.Slip")],
        .record [("kind", .text "rpc-output"), ("bean_name", .text "till.Slip")]])]])]])]

/-- The generator for this document. -/
def tillService : Generator where
  model := (ServiceModel.ofValue tillDocument).toOption.getD {}
  settings := { runId := "7", outputDir := ⟨"", ["out"]⟩ }
  resolver := ⟨[]⟩
  renderer := .shipped
  compiler := ⟨fun _ => Run.fail (.of .compileBeforeCommon)⟩

/-- The output comes last, so metadata and source of the bean have its order: the result, then the
parameters that travel back. -/
theorem runCommon_wires_till : ServiceModel.ofValue tillDocument = .ok tillService.model ∧
    ∃ c s', tillService.runCommon.Returns {} c s' ∧ tillService.Wires {} s' c ∧
      ∃ d x, c.registry.get? (.text "till.Slip") .wrapper = .ok (some d) ∧
        Rendering.lastOf "till.Slip" s'.renderings = some x ∧
        d.propertyOrder? = some [.text "return", .text "note", .text "change"] ∧
        boundProperties? x.bindings = some [.text "return", .text "note", .text "change"] := by
  have hdoc : ServiceModel.ofValue tillDocument = .ok tillService.model := by rfl
  have horder : (tillService.model.lastCarried tillService.resolver "till.Slip").map
      (fun p => p.1.wireOrder p.2) = some [.text "return", .text "note", .text "change"] := by
    rfl
  obtain ⟨c, s', h⟩ := @Run.returns_of_isOk _ tillService.runCommon {} (by decide +kernel)
  have hwires : tillService.Wires {} s' c := runCommon_wires hdoc h
  refine ⟨hdoc, c, s', h, hwires, ?_⟩
  obtain ⟨p, hlast, hnames⟩ := Option.map_eq_some_iff.1 horder
  obtain ⟨hmem, hbean⟩ := List.mem_filter.1 (List.mem_of_getLast? hlast)
  obtain ⟨o, m, d, x, hlast', hd, hx, hdescribed, hrendered⟩ := hwires.agree p hmem
  rw [beq_iff_eq.1 hbean] at hlast' hd hx
  obtain rfl : p = (o, m) := Option.some.inj (hlast.symm.trans hlast')
  exact ⟨d, x, hd, hx, hdescribed.trans (congrArg some hnames),
    hrendered.trans (congrArg some hnames)⟩

end Generator

end SoapStubs
