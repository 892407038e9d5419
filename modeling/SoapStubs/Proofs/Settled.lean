import SoapStubs.Proofs.Conversion
import SoapStubs.Proofs.Overwriting
import SoapStubs.Proofs.ReadBack

/-!
# Conversion is applied everywhere

The identifiers of classes reach the result of the common phase in many ways: as identifiers of
entities, with something put behind them, as keys and in the fields of records, in the manifest and
in artifacts.  Wherever they stand, conversion has been applied to them, and would not change them
if it were applied again.

* `Resolver.Converted` says what identifiers look like to which conversion was applied, and
  `Resolver.Converted.resolve` that it leaves them as they are;
* `CommonResult.EachClass` lists the places where identifiers stand;
* `Generator.eachClass_converted` says that all of them are converted, and
  `Generator.runCommon_settled` is the theorem.
-/

namespace SoapStubs

/-! ### Converted identifiers -/

namespace Resolver

variable {r : Resolver} {id suffix : String}

/-- A package that was moved where the rules say, and any simple name in it. -/
def Converted (r : Resolver) (id : String) : Prop :=
  ∃ package simple, '.' ∉ simple.toList ∧ id = Name.qualify (r.resolvePackage package) simple

theorem converted_resolveName (r : Resolver) (name : String) : r.Converted (r.resolveName name) :=
  ⟨Name.package name, Name.simple name, Name.dot_not_mem_simple name, r.resolveName_eq name⟩

theorem Converted.append (h : r.Converted id) (hsuffix : '.' ∉ suffix.toList) :
    r.Converted (id ++ suffix) := by
  obtain ⟨package, simple, hsimple, rfl⟩ := h
  refine ⟨package, simple ++ suffix, ?_, Name.qualify_append _ simple suffix⟩
  rw [String.toList_append, List.mem_append]
  exact not_or.2 ⟨hsimple, hsuffix⟩

/-- **Conversion leaves converted identifiers as they are.** -/
theorem Converted.resolve (hr : r.Lawful) (h : r.Converted id) (hne : id ≠ "") :
    r.resolve id = .ok id := by
  obtain ⟨package, simple, hsimple, rfl⟩ := h
  rw [r.resolve_ok rfl hne, resolveName_eq, Name.package_qualify _ hsimple,
    Name.simple_qualify _ hsimple, resolvePackage_resolvePackage hr]

end Resolver

/-! ### Where identifiers stand -/

/-- The classes that the fields of a descriptor name. -/
def Descriptor.classes : Descriptor → List Value
  | .operation _ _ request response => [request, response]
  | .faultMapping _ _ bean _ => [bean]
  | _ => []

/-- Are descriptors of the kind recorded for classes, under their identifiers? -/
def DescriptorKind.isOfClass : DescriptorKind → Bool
  | .service | .wrapper | .faultMapping | .rootElement => true
  | _ => false

namespace CommonResult

/-- Every identifier of a class in the result has a property. -/
structure EachClass (P : String → Prop) (c : CommonResult) : Prop where
  manifest : ∀ id ∈ c.manifest.identifiers, P id
  /-- The interfaces of endpoints and their implementations. -/
  endpoint : ∀ e ∈ c.plan.endpoints, P e.identifier ∧ P e.implIdentifier
  /-- The beans and the faults of operations. -/
  operation : ∀ e ∈ c.plan.endpoints, ∀ o ∈ e.operations,
    (∀ id ∈ o.requestBean, P id) ∧ (∀ id ∈ o.responseBean, P id) ∧ ∀ id ∈ o.faults, P id
  fault : ∀ f ∈ c.plan.faults, P f.identifier ∧ P f.carrier
  type : ∀ t ∈ c.plan.types, P t.identifier
  /-- The classes that were rendered, bindings of types among them. -/
  artifact : ∀ a ∈ c.artifacts, P a.identifier
  key : ∀ record ∈ c.registry.records, record.kind.isOfClass = true →
    ∃ id, record.key = .text id ∧ P id
  /-- The classes that records name. -/
  field : ∀ record ∈ c.registry.records, ∀ v ∈ record.descriptor.classes,
    v = .null ∨ ∃ id, v = .text id ∧ P id

theorem EachClass.imp {P Q : String → Prop} {c : CommonResult} (h : c.EachClass P)
    (hPQ : ∀ id, P id → Q id) : c.EachClass Q where
  manifest id hid := hPQ id (h.manifest id hid)
  endpoint e he := (h.endpoint e he).imp (hPQ _) (hPQ _)
  operation e he o ho := by
    obtain ⟨hrequest, hresponse, hfaults⟩ := h.operation e he o ho
    exact ⟨fun id hid => hPQ id (hrequest id hid), fun id hid => hPQ id (hresponse id hid),
      fun id hid => hPQ id (hfaults id hid)⟩
  fault f hf := (h.fault f hf).imp (hPQ _) (hPQ _)
  type t ht := hPQ _ (h.type t ht)
  artifact a ha := hPQ _ (h.artifact a ha)
  key record hrecord hkind := by
    obtain ⟨id, hkey, hid⟩ := h.key record hrecord hkind
    exact ⟨id, hkey, hPQ id hid⟩
  field record hrecord v hv := by
    rcases h.field record hrecord v hv with hnull | ⟨id, hid, hP⟩
    · exact .inl hnull
    · exact .inr ⟨id, hid, hPQ id hP⟩

end CommonResult

/-! ### What was declared, planned and rendered -/

namespace Manifest

variable {m m' : Manifest} {id : String}

/-- Only what was declared is in a manifest. -/
theorem exists_of_mem_addAll {ds : List Declaration} (h : m.addAll ds = .ok m')
    (hid : id ∈ m'.identifiers) : id ∈ m.identifiers ∨ ∃ d ∈ ds, d.1 = id := by
  rw [Manifest.identifiers, origins_addAll h, Ordered.mem_keys_putAll] at hid
  refine hid.imp_right ?_
  rintro ⟨p, hp, rfl⟩
  obtain ⟨d, hd, rfl⟩ := List.mem_map.1 hp
  exact ⟨d, hd, rfl⟩

end Manifest

section

open Script

variable {r : Resolver} {m : ServiceModel} {ws : List Registry.Write}

theorem typeScript_identifier {t : TypeDefinition} {plan : TypePlan} (ht : t.Typed)
    (h : (typeScript r m t).Ends ws plan) : plan.identifier = t.identifier r := by
  simp only [typeScript, ends_lift_bind] at h
  obtain ⟨id, hid, h⟩ := h
  obtain ⟨hid, -⟩ := Resolver.resolve_inv ht.qualifiedName hid
  have hplan : ⟨id, t, m.rootElementOf t⟩ = plan := by
    split at h
    · simp only [ends_declare_bind, ends_lift_bind, ends_emit_bind, ends_pure] at h
      obtain ⟨bindings, -, -, h⟩ := h
      exact h
    · simp only [ends_lift_bind, ends_emit_bind, ends_pure] at h
      obtain ⟨bindings, -, -, h⟩ := h
      exact h
  rw [← hplan]
  exact hid

/-- The plans of endpoints have their identifiers. -/
theorem exists_endpoint_of_plan {plan : CommonPlan} (hm : m.Typed)
    (h : (commonScript r m).result = .ok plan) :
    ∀ e ∈ plan.endpoints, ∃ endpoint ∈ m.endpoints, e.identifier = endpoint.identifier r ∧
      e.implIdentifier = endpoint.identifier r ++ "Impl" := by
  intro e he
  have hnames : e.names ∈ (m.endpointIds r).map fun id => (id, id ++ "Impl") :=
    commonScript_endpoints hm h ▸ List.mem_map_of_mem he
  obtain ⟨id, hid, heq⟩ := List.mem_map.1 hnames
  obtain ⟨hidentifier, himpl⟩ := Prod.mk.inj heq
  obtain ⟨endpoint, hmem, rfl⟩ := List.mem_map.1 hid
  exact ⟨endpoint, hmem, hidentifier.symm, himpl.symm⟩

/-- The plans of types have their identifiers. -/
theorem commonScript_types {plan : CommonPlan} (hm : m.Typed)
    (h : (commonScript r m).result = .ok plan) :
    ∀ t ∈ plan.types, t.definition ∈ m.types ∧ t.identifier = t.definition.identifier r := by
  obtain ⟨-, back, -, htypes⟩ := commonScript_parts h
  obtain ⟨-, hplans⟩ := ends_each (fun _ => [])
    (fun t p => p.definition = t ∧ p.identifier = p.definition.identifier r) htypes
    fun t ht ws plan h => by
      obtain ⟨hws, hdefinition, -⟩ := typeScript_ends h
      refine ⟨hws, hdefinition, ?_⟩
      rw [hdefinition]
      exact typeScript_identifier (hm.types t ht) h
  obtain ⟨hdefinitions, hidentifiers⟩ := plans_eq hplans
  intro t ht
  refine ⟨?_, hidentifiers t ht⟩
  rw [← hdefinitions]
  exact List.mem_map_of_mem ht

end

/-- Artifacts are left of sources that a script renders. -/
theorem Site.exists_source_of_artifact {site : Site} {α : Type} {script : Script α} {x : α}
    {b b' : Bench} {s s' : Session} (hb : b.artifacts = [])
    (h : (site.play b script).Returns s (x, b') s') {a : Artifact} (ha : a ∈ b'.artifacts) :
    ∃ source, .emit source ∈ script.steps ∧ site.target source = .ok a.path ∧
      a = source.artifact a.path := by
  obtain ⟨-, hartifacts⟩ := performAll_kept (.nil _) (play_returns.1 h).2
  rw [hartifacts, hb, List.nil_append] at ha
  obtain ⟨e, he, rfl⟩ := List.mem_map.1 ha
  obtain ⟨hmem, hrender⟩ := mem_emissions.1 he
  exact ⟨e.source, hmem, target_of_render hrender, rfl⟩

namespace Generator

variable {g : Generator} {s s' : Session} {c : CommonResult}

/-- Artifacts of the common phase are left of sources that were rendered for something that belongs
to the model. -/
theorem exists_origin_of_artifact (hm : g.model.Typed) (h : g.runCommon.Returns s c s')
    {a : Artifact} (ha : a ∈ c.artifacts) : ∃ (o : Origin) (source : Source),
      o.Belongs g.resolver g.model ∧ o.source g.resolver g.model = .ok source ∧
      g.site.target source = .ok a.path ∧ a = source.artifact a.path := by
  obtain ⟨plan, b, s₁, s₂, -, hplay, rfl, -⟩ := runCommon_play h
  obtain ⟨source, hmem, htarget, ha⟩ := Site.exists_source_of_artifact rfl hplay ha
  obtain ⟨o, ho, hsource⟩ := commonScript_emits hm _ hmem
  exact ⟨o, source, ho, hsource, htarget, ha⟩

/-- The identifiers of a resolved fault and of its carrier are converted. -/
theorem fault_converted (hm : g.model.Typed) {faults : List ResolvedFault}
    (h : resolveFaults g.resolver g.model.faults = .ok faults) {f : ResolvedFault}
    (hf : f ∈ faults) : g.resolver.Converted f.identifier ∧ g.resolver.Converted f.carrier := by
  obtain ⟨d, -, rfl⟩ := exists_entry_of_resolved hm.faults h f hf
  exact ⟨g.resolver.converted_resolveName _, g.resolver.converted_resolveName _⟩

theorem origin_converted (hm : g.model.Typed) {o : Origin} (ho : o.Belongs g.resolver g.model) :
    g.resolver.Converted (o.identifier g.resolver) := by
  cases o with
  | message key b => exact g.resolver.converted_resolveName _
  | carrier f =>
    obtain ⟨-, faults, hfaults, hf⟩ := ho
    exact (fault_converted hm hfaults hf).2
  | type t =>
    rw [Origin.identifier, TypeDefinition.identifier, bindingIdentifier_resolveName]
    exact (g.resolver.converted_resolveName _).append (by decide)

/-- The bean that a plan or a record names. -/
theorem last_converted (r : Resolver) (request : Bool) (ms : List BeanMessage) :
    ∀ id ∈ BeanMessage.last r request ms, r.Converted id := by
  intro id hid
  obtain ⟨m, -, rfl⟩ := BeanMessage.exists_of_last hid
  exact r.converted_resolveName _

/-- The keys of records that are of classes. -/
theorem Delivered.key_converted (hc : g.Delivered c) (hm : g.model.Typed) {record : Record}
    (hrecord : record ∈ c.registry.records) (hkind : record.kind.isOfClass = true) :
    ∃ id, record.key = .text id ∧ g.resolver.Converted id := by
  obtain ⟨w, hw, rfl⟩ := hc.mem_of_record hrecord
  refine ⟨w.1, rfl, ?_⟩
  rcases ServiceModel.mem_writes.1 hw with
    ⟨e, -, rfl | rfl | ⟨o, -, hw⟩⟩ | ⟨f, hf, rfl⟩ | ⟨e, -, rfl⟩
  · exact g.resolver.converted_resolveName _
  · exact g.resolver.converted_resolveName _
  · rcases Operation.mem_writesAt.1 hw with
      ⟨m, -, rfl⟩ | (rfl | rfl | rfl) | ⟨-, rfl⟩ | ⟨i, hi, rfl⟩
    · exact g.resolver.converted_resolveName _
    all_goals cases hkind
  · exact (fault_converted hm hc.resolved hf).1
  · exact g.resolver.converted_resolveName _

/-- The classes that records name. -/
theorem Delivered.field_converted (hc : g.Delivered c) (hm : g.model.Typed) {record : Record}
    (hrecord : record ∈ c.registry.records) {v : Value} (hv : v ∈ record.descriptor.classes) :
    v = .null ∨ ∃ id, v = .text id ∧ g.resolver.Converted id := by
  have hoption : ∀ bean : Option String, (∀ id ∈ bean, g.resolver.Converted id) →
      Value.ofOption bean = .null ∨
        ∃ id, Value.ofOption bean = .text id ∧ g.resolver.Converted id := by
    intro bean hbean
    cases bean with
    | none => exact .inl rfl
    | some id => exact .inr ⟨id, rfl, hbean id rfl⟩
  cases hd : record.descriptor with
  | operation name action request response =>
    obtain ⟨e, -, o, -, rfl⟩ := hc.operation_record hrecord (by rw [Record.kind, hd]; rfl)
    rcases List.mem_pair.1 hv with rfl | rfl
    · exact hoption _ (last_converted _ true _)
    · exact hoption _ (last_converted _ false _)
  | faultMapping name space bean implicit =>
    obtain ⟨f, hf, rfl⟩ := hc.faultMapping_record hrecord (by rw [Record.kind, hd]; rfl)
    obtain rfl := List.mem_singleton.1 hv
    exact .inr ⟨f.carrier, rfl, (fault_converted hm hc.resolved hf).2⟩
  | service | soapBinding | result | parameter | wrapper | rootElement | oneWay =>
    rw [hd] at hv
    cases hv

/-- All identifiers of classes in a common result are converted. -/
theorem eachClass_converted (hm : g.model.Typed) (h : g.runCommon.Returns s c s') :
    c.EachClass g.resolver.Converted := by
  have hc := delivered_of_returns hm h
  have hartifact := fun a ha => exists_origin_of_artifact hm h (a := a) ha
  obtain ⟨plan, b, s₁, s₂, -, hplay, rfl, -⟩ := runCommon_play h
  obtain ⟨hresult, -⟩ := Site.play_returns.1 hplay
  constructor
  case manifest =>
    intro id hid
    obtain ⟨-, hadded, hresolves⟩ := Site.play_declares hm hplay
    rcases Manifest.exists_of_mem_addAll hadded hid with hid | ⟨d, hd, rfl⟩
    · cases hid
    · rw [(hresolves d hd).1]
      exact g.resolver.converted_resolveName _
  case endpoint =>
    intro e he
    obtain ⟨endpoint, -, hidentifier, himpl⟩ := exists_endpoint_of_plan hm hresult e he
    rw [hidentifier, himpl]
    have hconverted := g.resolver.converted_resolveName endpoint.qualifiedName.nameText
    exact ⟨hconverted, hconverted.append (by decide)⟩
  case operation =>
    intro e he o ho
    have hdescribes := (hc.describes e he).describes o ho
    rw [hdescribes.request, hdescribes.response]
    refine ⟨last_converted _ true _, last_converted _ false _, fun id hid => ?_⟩
    obtain ⟨f, -, rfl⟩ := (hdescribes.faults id).1 hid
    exact g.resolver.converted_resolveName _
  case fault =>
    exact fun f hf => fault_converted hm hc.resolved hf
  case type =>
    intro t ht
    rw [(commonScript_types hm hresult t ht).2]
    exact g.resolver.converted_resolveName _
  case artifact =>
    intro a ha
    obtain ⟨o, source, ho, hsource, -, heq⟩ := hartifact a ha
    rw [heq, Source.artifact, (Origin.source_inv hsource).1]
    exact origin_converted hm ho
  case key =>
    exact fun record hrecord hkind => hc.key_converted hm hrecord hkind
  case field =>
    exact fun record hrecord v hv => hc.field_converted hm hrecord hv

/-- **Conversion is applied everywhere.**  If the common phase of a typed model returns under rules
that were accepted, then every identifier of a class in its result, unless it is empty, is its own
identifier. -/
theorem runCommon_settled {rules : List Rule} (hr : Resolver.ofRules rules = .ok g.resolver)
    (hm : g.model.Typed) (h : g.runCommon.Returns s c s') :
    c.EachClass fun id => id ≠ "" → g.resolver.resolve id = .ok id :=
  (eachClass_converted hm h).imp fun _ hid hne => hid.resolve (Resolver.lawful_of_ofRules hr) hne

/-- The service whose packages are moved below themselves. -/
def nestedOrders : Generator := { orderService with resolver := ⟨[(["shop"], ["shop", "client"])]⟩ }

theorem runCommon_settled_orders :
    Resolver.ofRules [⟨"shop", "shop.client"⟩] = .ok nestedOrders.resolver ∧
      nestedOrders.model.Typed ∧ ∃ c s', nestedOrders.runCommon.Returns {} c s' ∧
        c.manifest.identifiers = ["shop.client.Find", "shop.client.Order"] ∧
        c.EachClass fun id => id ≠ "" → nestedOrders.resolver.resolve id = .ok id := by
  have hr : Resolver.ofRules [⟨"shop", "shop.client"⟩] = .ok nestedOrders.resolver := rfl
  have hm : nestedOrders.model.Typed := by decide
  obtain ⟨c, s', h, hmanifest⟩ := @Run.returns_of_check _ nestedOrders.runCommon {}
    (fun c => c.manifest.identifiers == ["shop.client.Find", "shop.client.Order"])
    (by decide +kernel)
  exact ⟨hr, hm, c, s', h, eq_of_beq hmanifest, runCommon_settled hr hm h⟩

end Generator

end SoapStubs
