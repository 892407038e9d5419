import SoapStubs.Proofs.Collisions
import SoapStubs.Proofs.CommonPhase
import SoapStubs.Proofs.Forest
import SoapStubs.Proofs.Overlay
import SoapStubs.Proofs.Persist
import SoapStubs.Proofs.Phases

/-!
# The variants agree

The variant phases render different sources from different templates, but they say the same about
the service: what a variant records does not depend on the variant, nor does what its sources are
called.

* `Generator.lookup_service`: the common metadata has a service for the identifier of each endpoint
  and for nothing else;
* `variantScript_within`: what the steps of a variant phase amount to, under a view that sees of a
  source what it is for and which class it holds;
* `Generator.VariantsAgree` and `Generator.variants_agree`: the two variants have the same records,
  label their sources in the same way and store the same metadata, up to the name of the variant;
* `Generator.RecordsImpls`: recording is an integrity error exactly if the implementation of an
  endpoint has the identifier of an endpoint.
-/

namespace SoapStubs

/-! ### Services in the common metadata -/

/-- The identifiers of the endpoints, in the order of the model. -/
def ServiceModel.endpointIds (r : Resolver) (m : ServiceModel) : List String :=
  m.endpoints.map (Endpoint.identifier r)

/-- The service descriptor that the common metadata has for an identifier. -/
def CommonResult.service (c : CommonResult) (id : String) : Descriptor :=
  (c.registry.lookup (.text id, .service)).getD default

/-- What a variant records: for each implementation the service of its endpoint. -/
def CommonResult.implWrites (c : CommonResult) (ids : List String) : List Registry.Write :=
  ids.map fun id => (id ++ "Impl", c.service id)

section

variable {r : Resolver} {ws : List Registry.Write}

open Script

theorem endpointScript_plan {e : Endpoint} {plan : EndpointPlan} (he : e.Typed)
    (h : (endpointScript r e).Ends ws plan) :
    plan.identifier = e.identifier r ∧ plan.implIdentifier = e.identifier r ++ "Impl" := by
  simp only [endpointScript, ends_lift_bind, ends_record_bind] at h
  obtain ⟨id, hid, back, ⟨back, h, rfl⟩, rfl⟩ := h
  obtain ⟨rfl, -⟩ := Resolver.resolve_inv he.qualifiedName hid
  obtain ⟨plans, front, back, -, hpure, rfl⟩ := ends_bind.1 h
  obtain ⟨-, rfl⟩ := ends_pure.1 hpure
  exact ⟨rfl, rfl⟩

/-- The names of an endpoint: its interface and its implementation. -/
def EndpointPlan.names (plan : EndpointPlan) : String × String :=
  (plan.identifier, plan.implIdentifier)

theorem endpointPlans_names {es : List Endpoint} {plans : List EndpointPlan}
    (h : List.Forall₂ (fun e p => p.identifier = e.identifier r ∧
      p.implIdentifier = e.identifier r ++ "Impl") es plans) :
    plans.map EndpointPlan.names =
      (es.map (Endpoint.identifier r)).map fun id => (id, id ++ "Impl") := by
  induction h with
  | nil => rfl
  | cons hp _ ih => simp only [List.map_cons, EndpointPlan.names, hp.1, hp.2, ← ih]

/-- The plans of the endpoints hold the identifiers of the endpoints. -/
theorem commonScript_endpoints {m : ServiceModel} {plan : CommonPlan} (hm : m.Typed)
    (h : (commonScript r m).result = .ok plan) :
    plan.endpoints.map EndpointPlan.names = (m.endpointIds r).map fun id => (id, id ++ "Impl") := by
  obtain ⟨front, -, hendpoints, -⟩ := commonScript_parts h
  obtain ⟨-, hplans⟩ := ends_each (Endpoint.writes r)
    (fun e p => p.identifier = e.identifier r ∧ p.implIdentifier = e.identifier r ++ "Impl")
    hendpoints fun e he ws plan h =>
      ⟨(endpointScript_ends (hm.endpoints e he) h).1, endpointScript_plan (hm.endpoints e he) h⟩
  exact endpointPlans_names hplans

/-- What is recorded for an operation is its descriptor, or of a kind of its own. -/
theorem Operation.writesAt_cases {o : Operation} {key : String} {w : Registry.Write}
    (hw : w ∈ o.writesAt r key) : w = (key, o.descriptor r) ∨
      w.2.kind ∈ [.wrapper, .soapBinding, .result, .oneWay, .parameter] := by
  simp only [writesAt, List.mem_append, List.mem_map, List.mem_cons, List.not_mem_nil, or_false,
    List.mem_mapIdx] at hw
  rcases hw with ⟨m, -, rfl⟩ | (rfl | rfl | rfl) | hone | ⟨i, hi, rfl⟩
  · exact .inr (List.mem_of_elem_eq_true rfl)
  · exact .inr (List.mem_of_elem_eq_true rfl)
  · exact .inl rfl
  · exact .inr (List.mem_of_elem_eq_true rfl)
  · split at hone
    · rw [List.mem_singleton.1 hone]
      exact .inr (List.mem_of_elem_eq_true rfl)
    · cases hone
  · exact .inr (List.mem_of_elem_eq_true rfl)

/-- Services are recorded for endpoints only. -/
theorem ServiceModel.service_write {m : ServiceModel} {faults : List ResolvedFault}
    {w : Registry.Write} (hw : w ∈ m.writes r faults) (hk : w.2.kind = .service) :
    ∃ e ∈ m.endpoints, w = (e.identifier r, e.descriptor) := by
  simp only [writes, List.mem_append, List.mem_flatMap, List.mem_map] at hw
  rcases hw with ⟨e, he, hw⟩ | ⟨f, -, rfl⟩ | ⟨e, -, rfl⟩
  · simp only [Endpoint.writes, List.mem_append, List.mem_cons, List.not_mem_nil, or_false,
      List.mem_flatMap] at hw
    rcases hw with (rfl | rfl) | ⟨o, -, hw⟩
    · exact ⟨e, he, rfl⟩
    · cases hk
    · rcases Operation.writesAt_cases hw with rfl | hkind
      · cases hk
      · simp [hk] at hkind
  · cases hk
  · cases hk

end

theorem Registry.lookup_freeze (r : Registry) (slot : Slot) :
    r.freeze.lookup slot = r.lookup slot := by
  cases r <;> rfl

/-- The descriptor in a slot is the service of a typed endpoint. -/
structure Generator.IsService (g : Generator) (c : CommonResult) (id : String) : Prop where
  lookup : c.registry.lookup (.text id, .service) = some (c.service id)
  simple : (c.service id).Simple
  kind : (c.service id).kind = .service

namespace Generator

variable {g : Generator} {s s' : Session} {c : CommonResult}

/-- A variant starts on top of the common metadata. -/
theorem above_of_returns (h : g.runCommon.Returns s c s') :
    c.registry.above = .ok (.overlay c.registry {}) := by
  obtain ⟨registry, -, hregistry, -⟩ := runCommon_inv h
  rw [hregistry, Registry.above, Registry.frozen, Registry.freeze, Registry.own_withOwn, if_pos rfl]

/-- **Services in the common metadata**: there is one for the identifier of each endpoint, and for
nothing else. -/
theorem lookup_service (hm : g.model.Typed) (h : g.runCommon.Returns s c s') (id : String) :
    (id ∈ g.model.endpointIds g.resolver ∧ g.IsService c id) ∨
      (id ∉ g.model.endpointIds g.resolver ∧ c.registry.lookup (.text id, .service) = none) := by
  obtain ⟨registry, hwrites, hregistry, hresult⟩ := runCommon_inv h
  obtain ⟨hall, -⟩ := commonScript_ends hm (Script.ends_writes hresult)
  rw [hall] at hwrites
  have hlookup : c.registry.lookup (.text id, .service) =
      (Registry.ledger (g.model.writes g.resolver c.plan.faults)).get? (id, .service) := by
    rw [hregistry, Registry.lookup_freeze, Registry.lookup_writeAll hwrites]
  cases hget : c.registry.lookup (.text id, .service) with
  | none =>
    refine .inr ⟨fun hmem => ?_, rfl⟩
    obtain ⟨e, he, rfl⟩ := List.mem_map.1 hmem
    have hw : (e.identifier g.resolver, e.descriptor) ∈
        g.model.writes g.resolver c.plan.faults :=
      List.mem_append_left _ (List.mem_flatMap.2 ⟨e, he, by simp [Endpoint.writes]⟩)
    exact Registry.get?_ledger_ne_none hw (hlookup.symm.trans hget)
  | some d =>
    have hservice : c.service id = d := by
      rw [CommonResult.service, hget]
      rfl
    obtain ⟨hmem, hkind⟩ := Registry.mem_of_get?_ledger (hlookup.symm.trans hget)
    obtain ⟨e, he, hw⟩ := ServiceModel.service_write hmem hkind
    obtain ⟨rfl, rfl⟩ := Prod.mk.inj hw
    refine .inl ⟨List.mem_map_of_mem he, ⟨by rw [hget, hservice], ?_, by rw [hservice]; rfl⟩⟩
    rw [hservice]
    exact Endpoint.simple_descriptor (hm.endpoints e he)

theorem service_of_mem (hm : g.model.Typed) (h : g.runCommon.Returns s c s') {id : String}
    (hid : id ∈ g.model.endpointIds g.resolver) : g.IsService c id := by
  rcases lookup_service hm h id with ⟨-, hservice⟩ | ⟨hnot, -⟩
  · exact hservice
  · exact absurd hid hnot

end Generator

/-! ### What a variant phase amounts to -/

section

variable {γ : Type} (p : Step → Option γ) (label : ArtifactCategory → String → Option γ)
  (service : String → Descriptor)

/-- What the part of a variant phase for an endpoint amounts to. -/
def EndpointPlan.outline (plan : EndpointPlan) : List γ :=
  (label .endpointInterface plan.identifier).toList ++
    ((label .endpointImpl plan.implIdentifier).toList ++
      (p (.record plan.implIdentifier (service plan.identifier))).toList)

/-- What a variant phase amounts to, under a view that sees of a source what it is for and which
class it holds. -/
def CommonPlan.outline (plan : CommonPlan) : List γ :=
  plan.endpoints.flatMap (EndpointPlan.outline p label service) ++
    (plan.faults.flatMap (fun f => (label .fault f.identifier).toList) ++
      plan.types.flatMap fun t => (label .type t.identifier).toList)

variable {p label service} {r : Resolver} {v : Variant} {d : Deployment} {common : Registry}

open Script

section

variable (hlabel : ∀ source, p (.emit source) = label source.category source.identifier)

include hlabel

theorem within_emit (source : Source) :
    (emit source).Within p (label source.category source.identifier).toList :=
  hlabel source ▸ within_take (.emit source)

theorem endpointSources_within {plan : EndpointPlan}
    (hservice : common.lookup (.text plan.identifier, .service) = some (service plan.identifier)) :
    (endpointSources r v d common plan).Within p (plan.outline p label service) := by
  rw [endpointSources, hservice]
  refine within_lift_bind fun bindings => ?_
  refine within_bind (within_emit hlabel _) fun _ _ => ?_
  exact within_bind (within_emit hlabel _) fun _ _ => within_take _

theorem typeSource_within (plan : TypePlan) :
    (typeSource r v plan).Within p (label .type plan.identifier).toList :=
  within_lift_bind fun _ => within_emit hlabel _

/-- **What a variant phase amounts to** does not depend on the variant. -/
theorem variantScript_within {plan : CommonPlan}
    (hservice : ∀ e ∈ plan.endpoints,
      common.lookup (.text e.identifier, .service) = some (service e.identifier)) :
    (variantScript r v d common plan).Within p (plan.outline p label service) := by
  refine within_bind (within_each fun e he => endpointSources_within hlabel (hservice e he))
    fun _ _ => ?_
  refine within_bind (within_each fun f _ => within_emit hlabel _) fun _ _ => ?_
  exact within_bind_pure (within_each fun t _ => typeSource_within hlabel t)

end

end

/-! ### What steps leave behind -/

/-- What an artifact is for, and which class it holds. -/
def Artifact.label (a : Artifact) : ArtifactCategory × String := (a.category, a.identifier)

/-- What the source of a step is for, and which class it holds. -/
def Step.label? : Step → Option (ArtifactCategory × String)
  | .emit source => some (source.category, source.identifier)
  | _ => none

namespace Site

variable {site : Site} {b b' : Bench} {s s' : Session} {steps : List Step}

/-- A step adds the source it renders to the artifacts, and keeps the common result. -/
theorem perform_artifacts {step : Step} (h : (site.perform b step).Returns s b' s') :
    b'.artifacts.map Artifact.label = b.artifacts.map Artifact.label ++ step.label?.toList ∧
      s'.common = s.common := by
  cases takes_of_perform h with
  | emit => exact ⟨List.map_append, rfl⟩
  | declare | record | note => exact ⟨(List.append_nil _).symm, rfl⟩

theorem performAll_artifacts (h : (site.performAll b steps).Returns s b' s') :
    b'.artifacts.map Artifact.label =
        b.artifacts.map Artifact.label ++ steps.filterMap Step.label? ∧ s'.common = s.common := by
  induction steps generalizing b s with
  | nil =>
    obtain ⟨rfl, rfl⟩ := Run.returns_pure.1 h
    exact ⟨(List.append_nil _).symm, rfl⟩
  | cons step steps ih =>
    obtain ⟨b₁, s₁, hstep, h⟩ := Run.returns_bind.1 h
    obtain ⟨hlabels, hcommon⟩ := perform_artifacts hstep
    obtain ⟨hrest, hcommon'⟩ := ih h
    refine ⟨?_, hcommon'.trans hcommon⟩
    rw [hrest, hlabels, List.append_assoc]
    cases hstep : step.label? <;> simp [hstep]

end Site

namespace Generator

variable {g : Generator} {s s' s₁ s₂ : Session} {c : CommonResult} {r : VariantResult}
  {v : Variant}

/-- If a variant phase returns, its script was played over the closed common metadata, in a session
with the same files. -/
theorem runVariantOn_play (h : (g.runVariantOn v c).Returns s r s') :
    ∃ upper b u u', c.registry.above = .ok upper ∧ u.files = s.files ∧
      (g.site.play { registry := upper } (variantScript g.resolver v g.settings.deployment
        c.registry c.plan)).Returns u ((), b) u' ∧
      r = g.variantResult v b ∧ s'.files = u'.files ∧ s'.common = s.common := by
  obtain ⟨u, hfiles, hcommon, hcases⟩ := runVariantOn_cases g v c s
  rcases hcases with ⟨r', u', s'', hbody, hreturns, hfiles', hcommon'⟩ | ⟨e, u', s'', -, hfails, -⟩
  swap
  · exact absurd hfails h.not_fails
  obtain ⟨rfl, rfl⟩ := h.unique hreturns
  obtain ⟨upper, b, habove, hplay, rfl⟩ := variantBody_returns.1 hbody
  refine ⟨upper, b, u, u', habove, hfiles, hplay, rfl, hfiles', ?_⟩
  rw [hcommon', ← hcommon]
  exact (Site.performAll_artifacts (Site.play_returns.1 hplay).2).2

theorem runVariant_inv (h : (g.runVariant v (some c)).Returns s r s') :
    ∃ upper b u u', c.registry.above = .ok upper ∧
      (g.site.play { registry := upper } (variantScript g.resolver v g.settings.deployment
        c.registry c.plan)).Returns u ((), b) u' ∧
      r = g.variantResult v b ∧ s'.common = s.common := by
  obtain ⟨upper, b, u, u', habove, -, hplay, hr, -, hcommon⟩ := runVariantOn_play h
  exact ⟨upper, b, u, u', habove, hplay, hr, hcommon⟩

/-! ### The metadata of a variant -/

section

variable (hm : g.model.Typed) (h : g.runCommon.Returns s₁ c s₂)

include hm h

theorem services_of_plan : ∀ e ∈ c.plan.endpoints,
    c.registry.lookup (.text e.identifier, .service) = some (c.service e.identifier) := by
  obtain ⟨-, -, -, hresult⟩ := runCommon_inv h
  intro e he
  have hnames : e.names ∈ (g.model.endpointIds g.resolver).map fun id => (id, id ++ "Impl") :=
    commonScript_endpoints hm hresult ▸ List.mem_map_of_mem he
  obtain ⟨id, hid, heq⟩ := List.mem_map.1 hnames
  obtain ⟨rfl, -⟩ := Prod.mk.inj heq
  exact (service_of_mem hm h hid).lookup

/-- What a variant phase records does not depend on the variant. -/
theorem variantScript_writes (v : Variant) :
    (variantScript g.resolver v g.settings.deployment c.registry c.plan).Within Step.write?
      (c.implWrites (g.model.endpointIds g.resolver)) := by
  obtain ⟨-, -, -, hresult⟩ := runCommon_inv h
  have hwithin : (variantScript g.resolver v g.settings.deployment c.registry c.plan).Within
      Step.write? (c.plan.outline Step.write? (fun _ _ => none) c.service) :=
    variantScript_within (fun _ => rfl) (services_of_plan hm h)
  have hplans : c.plan.endpoints.flatMap
      (EndpointPlan.outline Step.write? (fun _ _ => none) c.service) =
      (c.plan.endpoints.map EndpointPlan.names).map fun names => (names.2, c.service names.1) := by
    rw [List.map_map, List.map_eq_flatMap]
    rfl
  have hfaults : c.plan.faults.flatMap (fun _ => ([] : List Registry.Write)) = [] :=
    List.flatMap_eq_nil_iff.2 fun _ _ => rfl
  have htypes : c.plan.types.flatMap (fun _ => ([] : List Registry.Write)) = [] :=
    List.flatMap_eq_nil_iff.2 fun _ _ => rfl
  suffices hsame : c.plan.outline Step.write? (fun _ _ => none) c.service =
      c.implWrites (g.model.endpointIds g.resolver) by rwa [hsame] at hwithin
  rw [CommonPlan.outline, hplans, commonScript_endpoints hm hresult, List.map_map]
  simp only [Option.toList_none, hfaults, htypes, List.append_nil]
  rfl

/-- The overlay of the implementations can be written unless one of them is an endpoint. -/
theorem writeAll_implWrites {upper : Registry} (habove : c.registry.above = .ok upper) :
    ((∀ id ∈ g.model.endpointIds g.resolver, id ++ "Impl" ∉ g.model.endpointIds g.resolver) ∧
        ∃ r, upper.writeAll (c.implWrites (g.model.endpointIds g.resolver)) = .ok r) ∨
      ((∃ id ∈ g.model.endpointIds g.resolver, id ++ "Impl" ∈ g.model.endpointIds g.resolver) ∧
        IntegrityError (upper.writeAll (c.implWrites (g.model.endpointIds g.resolver)))) := by
  obtain ⟨-, rfl⟩ := Registry.above_inv habove
  -- an implementation is refused exactly if the common registry has a service of its name
  have hslot : ∀ id ∈ g.model.endpointIds g.resolver,
      ((Registry.overlay c.registry {}).inherits
        (.text (id ++ "Impl"), (c.service id).kind) = true ↔
          id ++ "Impl" ∈ g.model.endpointIds g.resolver) := by
    intro id hid
    rw [(service_of_mem hm h hid).kind]
    show (c.registry.lookup (.text (id ++ "Impl"), .service)).isSome = true ↔ _
    rcases lookup_service hm h (id ++ "Impl") with ⟨hmem, hservice⟩ | ⟨hnot, hnone⟩
    · rw [hservice.lookup]
      exact iff_of_true rfl hmem
    · rw [hnone]
      exact iff_of_false nofun hnot
  have hkeys : ∀ w ∈ c.implWrites (g.model.endpointIds g.resolver), w.1 ≠ "" := by
    simp [CommonResult.implWrites]
  rcases Registry.writeAll_cases (r := .overlay c.registry {}) rfl hkeys with
    ⟨hall, hok⟩ | ⟨⟨w, hw, hsome⟩, herr⟩
  · refine .inl ⟨fun id hid hmem => ?_, hok⟩
    have hno := hall _ (List.mem_map_of_mem hid)
    rw [(hslot id hid).2 hmem] at hno
    cases hno
  · obtain ⟨id, hid, rfl⟩ := List.mem_map.1 hw
    exact .inr ⟨⟨id, hid, (hslot id hid).1 hsome⟩, herr⟩

/-- What the overlay of the implementations holds. -/
theorem implWrites_inv {upper upper' : Registry} (habove : c.registry.above = .ok upper)
    (hwrites : upper.writeAll (c.implWrites (g.model.endpointIds g.resolver)) = .ok upper') :
    upper'.parent? = some c.registry ∧ upper'.conflicts = [] ∧
      upper'.records = c.registry.records ++ (g.model.endpointIds g.resolver).eraseDups.map
        fun id => ⟨.text (id ++ "Impl"), c.service id⟩ := by
  obtain ⟨-, rfl⟩ := Registry.above_inv habove
  have hparent : upper'.parent? = some c.registry := (Registry.writeAll_inv hwrites).1
  have hinj : ∀ id id' : String, (id ++ "Impl", (c.service id).kind) =
      (id' ++ "Impl", (c.service id').kind) → id = id' := by
    intro id id' heq
    exact String.append_left_inj _ |>.1 (Prod.mk.inj heq).1
  refine ⟨hparent, ?_, ?_⟩
  · refine Registry.conflicts_writeAll hwrites rfl ?_ ?_
    · intro w hw
      obtain ⟨id, hid, rfl⟩ := List.mem_map.1 hw
      exact (service_of_mem hm h hid).simple
    · intro w hw w' hw' hkey _
      obtain ⟨id, -, rfl⟩ := List.mem_map.1 hw
      obtain ⟨id', -, rfl⟩ := List.mem_map.1 hw'
      rw [String.append_left_inj _ |>.1 hkey]
  · have hledger : Registry.ledger (c.implWrites (g.model.endpointIds g.resolver)) =
        (g.model.endpointIds g.resolver).eraseDups.map fun id =>
          ((id ++ "Impl", (c.service id).kind), c.service id) := by
      rw [Registry.ledger, CommonResult.implWrites, List.map_map]
      exact Ordered.ofList_map c.service hinj _
    rw [Registry.records_of_parent? hparent, Registry.ownRecords, Registry.Layer.records,
      Registry.own_writeAll hwrites rfl, hledger, List.map_map, List.map_map]
    rfl

end

end Generator

/-! ### Stored metadata -/

namespace Generator

variable {g : Generator} {s s' : Session} {c : CommonResult} {r : VariantResult}

/-- Storing metadata leaves the files as they were written. -/
theorem store_run (q : Metadata.Request) (s : Session) :
    (do
      let s ← get
      let (files, done) := Metadata.persist .none s.files q
      set { s with files }
      Run.logged done : Run Metadata.Files).run.run s =
      ((Metadata.persist .none s.files q).2.result,
        (Metadata.persist .none s.files q).2.events.foldl Session.log
          { s with files := (Metadata.persist .none s.files q).1 }) := by
  generalize hstore : Metadata.persist .none s.files q = stored
  obtain ⟨t, done⟩ := stored
  show (match Metadata.persist .none s.files q with
    | (files, done) => (do
        set { s with files }
        Run.logged done : Run Metadata.Files)).run.run s = _
  rw [hstore]
  rfl

theorem store_inv {q : Metadata.Request} {files : Metadata.Files}
    (h : Run.Returns (do
      let s ← get
      let (files, done) := Metadata.persist .none s.files q
      set { s with files }
      Run.logged done) s files s') :
    (Metadata.persist .none s.files q).2.result = .ok files ∧
      s'.files = (Metadata.persist .none s.files q).1 := by
  rw [Run.Returns, store_run, Prod.mk.injEq] at h
  exact ⟨h.1, h.2 ▸ (Session.common_foldl_log _ _).2⟩

/-- What is stored of a variant that compiles into a directory. -/
def storeRequest (r : VariantResult) (c : CommonResult) (dir : Path) : Metadata.Request where
  manifest := some c.manifest
  registry := some r.registry
  directory := dir
  run := c.runId
  variant := some r.variant.name

theorem compileBody_inv {dir : Path} {files : Metadata.Files}
    (h : (g.compileBody r c dir).Returns s files s') :
    ∃ s₁ : Session, (Metadata.persist .none s₁.files (storeRequest r c dir)).2.result = .ok files ∧
      s'.files = (Metadata.persist .none s₁.files (storeRequest r c dir)).1 := by
  obtain ⟨⟨⟩, s₃, -, h₁⟩ := Run.returns_bind.1 h
  obtain ⟨report, s₄, -, h₂⟩ := Run.returns_bind.1 h₁
  split at h₂
  · cases (Run.returns_lift.1 h₂).1
  · exact ⟨s₄, store_inv h₂⟩

/-- The metadata of a compiled variant is that of its results. -/
theorem compile_stored {k : CompiledVariant} (h : (g.compile r (some c)).Returns s k s') :
    s'.files.read k.metadata.types = .ok (.text c.manifest.toLines) ∧
      s'.files.read k.metadata.bindings =
        .ok (.text (Metadata.bindingsText r.registry c.runId (some r.variant.name))) := by
  have hon : (g.compileOn r c).Returns s k s' := h
  obtain ⟨files, s₁, hphase, hpure⟩ := Run.returns_bind.1 hon
  obtain ⟨rfl, rfl⟩ := Run.returns_pure.1 hpure
  obtain ⟨inside, henter⟩ : ∃ inside, s.context.enter "compile"
      [("run_id", .text c.runId), ("variant", .text r.variant.name)] = .ok inside := ⟨_, rfl⟩
  obtain ⟨s₂, hbody, rfl⟩ := Run.phase_returns_inv henter hphase
  obtain ⟨s₃, hdone, hfiles⟩ := compileBody_inv hbody
  obtain ⟨rfl, hwritten⟩ := Metadata.persist_written rfl rfl
    (Metadata.Chance.Lawful.of_beside rfl) hdone
  have htypes := hwritten.types
  have hbindings := hwritten.bindings
  rw [← hfiles] at htypes hbindings
  exact ⟨htypes, hbindings⟩

/-! ### The variants agree -/

/-- The text of binding metadata that has the name of a variant between other members. -/
def storedText (front back : List (String × Value)) (v : Variant) : String :=
  Json.render .indented (.record (front ++ ("variant", .text v.name) :: back)) ++ "\n"

/-- The variants say the same about the service. -/
structure VariantsAgree (g : Generator) (c : CommonResult) (l m : VariantResult) : Prop where
  /-- The common metadata has the service of each endpoint. -/
  services : ∀ id ∈ g.model.endpointIds g.resolver,
    c.registry.get? (.text id) .service = .ok (some (c.service id)) ∧
      (c.service id).kind = .service
  /-- Both lie over the common metadata. -/
  below : ∀ r ∈ [l, m], r.registry.parent? = some c.registry
  /-- Both have the common records, and then the service of each endpoint for its
  implementation. -/
  records : ∀ r ∈ [l, m], r.registry.records =
    c.registry.records ++ (g.model.endpointIds g.resolver).eraseDups.map
      fun id => ⟨.text (id ++ "Impl"), c.service id⟩
  /-- Neither has a conflict. -/
  conflicts : ∀ r ∈ [l, m], r.registry.conflicts = []
  /-- Their sources are for the same things and hold the same classes. -/
  artifacts : l.artifacts.map Artifact.label = m.artifacts.map Artifact.label
  /-- The stored lists of types are the same, and the stored binding metadata differs in the name of
  the variant only. -/
  stored : ∀ s s₁ s₂ s₃ k k', (g.compile l (some c)).Returns s k s₁ →
    (g.compile m (some c)).Returns s₂ k' s₃ →
    s₁.files.read k.metadata.types = .ok (.text c.manifest.toLines) ∧
      s₃.files.read k'.metadata.types = .ok (.text c.manifest.toLines) ∧
      ∃ front back,
        s₁.files.read k.metadata.bindings = .ok (.text (storedText front back .legacy)) ∧
        s₃.files.read k'.metadata.bindings = .ok (.text (storedText front back .modern))

/-- How the variants record their implementations. -/
structure RecordsImpls (g : Generator) (c : CommonResult) : Prop where
  /-- A variant phase records the services of the endpoints one after another, up to where it
  ends. -/
  steps : ∀ v, (variantScript g.resolver v g.settings.deployment c.registry c.plan).Within
    Step.write? (c.implWrites (g.model.endpointIds g.resolver))
  /-- A recording step over the common metadata is an integrity error if its key is the identifier
  of an endpoint, and succeeds otherwise. -/
  step : ∀ id ∈ g.model.endpointIds g.resolver, ∀ b s, b.registry.parent? = some c.registry →
    b.registry.frozen = false →
    (id ++ "Impl" ∈ g.model.endpointIds g.resolver ∧ ∃ e s',
        (g.site.perform b (.record (id ++ "Impl") (c.service id))).Fails s e s' ∧ e.IsIntegrity) ∨
      (id ++ "Impl" ∉ g.model.endpointIds g.resolver ∧ ∃ b' s',
        (g.site.perform b (.record (id ++ "Impl") (c.service id))).Returns s b' s')
  /-- All of them together are an integrity error exactly if the implementation of an endpoint has
  the identifier of an endpoint. -/
  clash : ∃ upper, c.registry.above = .ok upper ∧
    (IntegrityError (upper.writeAll (c.implWrites (g.model.endpointIds g.resolver))) ↔
      ∃ e ∈ g.model.endpoints, ∃ e' ∈ g.model.endpoints,
        e.identifier g.resolver ++ "Impl" = e'.identifier g.resolver)
  /-- Then no variant phase returns. -/
  fails : (∃ e ∈ g.model.endpoints, ∃ e' ∈ g.model.endpoints,
      e.identifier g.resolver ++ "Impl" = e'.identifier g.resolver) →
    ∀ v s, ∃ e s', (g.runVariant v (some c)).Fails s e s'

section

variable {s₁ s₂ : Session} {v : Variant} (hm : g.model.Typed) (h : g.runCommon.Returns s₁ c s₂)

include hm h

theorem runVariant_records (hr : (g.runVariant v (some c)).Returns s r s') :
    r.variant = v ∧ r.registry.parent? = some c.registry ∧ r.registry.conflicts = [] ∧
      r.registry.records = c.registry.records ++ (g.model.endpointIds g.resolver).eraseDups.map
        fun id => ⟨.text (id ++ "Impl"), c.service id⟩ := by
  obtain ⟨upper, b, u, u', habove, hplay, rfl, -⟩ := runVariant_inv hr
  obtain ⟨hresult, hwrites⟩ := Site.play_inv hplay
  have hall := (variantScript_writes hm h v).all () hresult
  rw [Script.writes, hall] at hwrites
  exact ⟨rfl, implWrites_inv hm h habove hwrites⟩

theorem runVariant_artifacts (hr : (g.runVariant v (some c)).Returns s r s') :
    r.artifacts.map Artifact.label = c.plan.outline Step.label?
      (fun category id => some (category, id)) c.service := by
  obtain ⟨upper, b, u, u', habove, hplay, rfl, -⟩ := runVariant_inv hr
  obtain ⟨hresult, hsteps⟩ := Site.play_returns.1 hplay
  rw [variantResult, (Site.performAll_artifacts hsteps).1]
  exact (variantScript_within (fun _ => rfl) (services_of_plan hm h)).all () hresult

end

end Generator

namespace Generator

variable {g : Generator} {s s' : Session} {c : CommonResult}

section

variable (hm : g.model.Typed) (h : g.runCommon.Returns s c s')

include hm h

/-- A recording step over the common metadata. -/
theorem perform_record_impl {id : String} (hid : id ∈ g.model.endpointIds g.resolver) {b : Bench}
    (hparent : b.registry.parent? = some c.registry) (hopen : b.registry.frozen = false)
    (u : Session) :
    (id ++ "Impl" ∈ g.model.endpointIds g.resolver ∧ ∃ e u',
        (g.site.perform b (.record (id ++ "Impl") (c.service id))).Fails u e u' ∧ e.IsIntegrity) ∨
      (id ++ "Impl" ∉ g.model.endpointIds g.resolver ∧ ∃ b' u',
        (g.site.perform b (.record (id ++ "Impl") (c.service id))).Returns u b' u') := by
  have hslot : b.registry.inherits (.text (id ++ "Impl"), (c.service id).kind) =
      (c.registry.lookup (.text (id ++ "Impl"), .service)).isSome := by
    rw [(service_of_mem hm h hid).kind, Registry.inherits, hparent]
  have hkey : id ++ "Impl" ≠ "" := by simp
  rcases lookup_service hm h (id ++ "Impl") with ⟨hmem, hservice⟩ | ⟨hnot, hnone⟩
  · rw [hservice.lookup] at hslot
    rcases Registry.record_cases hopen hkey (c.service id) with ⟨hno, -⟩ | ⟨-, e, he, hkind⟩
    · cases hno.symm.trans hslot
    · refine .inl ⟨hmem, .error e, u, ?_, e, rfl, hkind⟩
      rw [Site.perform, Registry.recordLogged, he]
      rfl
  · rw [hnone] at hslot
    rcases Registry.record_cases hopen hkey (c.service id) with ⟨-, r', conflict, hok⟩ | ⟨hyes, -⟩
    · refine .inr ⟨hnot, { b with registry := r' },
        (conflict.toList.map Conflict.event).foldl Session.log u, ?_⟩
      rw [Site.perform, Registry.recordLogged, hok]
      rfl
    · cases hyes.symm.trans hslot

theorem recordsImpls : g.RecordsImpls c := by
  have hmeets : (∃ e ∈ g.model.endpoints, ∃ e' ∈ g.model.endpoints,
      e.identifier g.resolver ++ "Impl" = e'.identifier g.resolver) ↔
      ∃ id ∈ g.model.endpointIds g.resolver, id ++ "Impl" ∈ g.model.endpointIds g.resolver := by
    constructor
    · rintro ⟨e, he, e', he', heq⟩
      exact ⟨_, List.mem_map_of_mem he, heq ▸ List.mem_map_of_mem he'⟩
    · rintro ⟨id, hid, hmem⟩
      obtain ⟨e, he, rfl⟩ := List.mem_map.1 hid
      obtain ⟨e', he', heq⟩ := List.mem_map.1 hmem
      exact ⟨e, he, e', he', heq.symm⟩
  refine ⟨variantScript_writes hm h, fun id hid b u hparent hopen =>
    perform_record_impl hm h hid hparent hopen u, ⟨_, above_of_returns h, ?_⟩, fun hclash v u => ?_⟩
  · rw [hmeets]
    rcases writeAll_implWrites hm h (above_of_returns h) with ⟨hnone, r, hok⟩ | ⟨hsome, herr⟩
    · refine iff_of_false (fun herr => herr.ne_ok r hok) ?_
      rintro ⟨id, hid, hmem⟩
      exact hnone id hid hmem
    · exact iff_of_true herr hsome
  · rcases Run.returns_or_fails (g.runVariant v (some c)) u with ⟨r, u', hr⟩ | hfails
    swap
    · exact hfails
    obtain ⟨upper, b, u₁, u₂, habove', hplay, -, -⟩ := runVariant_inv hr
    obtain ⟨hresult, hwrites⟩ := Site.play_inv hplay
    rw [Script.writes, (variantScript_writes hm h v).all () hresult] at hwrites
    rcases writeAll_implWrites hm h habove' with ⟨hnone, -⟩ | ⟨-, herr⟩
    · obtain ⟨id, hid, hmem⟩ := hmeets.1 hclash
      exact absurd hmem (hnone id hid)
    · exact absurd hwrites (herr.ne_ok _)

end

/-- **The variants agree.**  After a common phase for a typed model, recording the implementations
in a variant phase is an integrity error exactly if one of them has the identifier of an endpoint;
and if both variant phases return, they say the same about the service and keep the common
result. -/
theorem variants_agree (hm : g.model.Typed) (h : g.runCommon.Returns s c s') :
    g.RecordsImpls c ∧ ∀ s₁ s₂ s₃ s₄ l m, (g.runVariant .legacy (some c)).Returns s₁ l s₂ →
      (g.runVariant .modern (some c)).Returns s₃ m s₄ →
      g.VariantsAgree c l m ∧ s₂.common = s₁.common ∧ s₄.common = s₃.common := by
  refine ⟨recordsImpls hm h, fun s₁ s₂ s₃ s₄ l m hl hmod => ⟨?_, ?_, ?_⟩⟩
  · obtain ⟨hlv, hlparent, hlconflicts, hlrecords⟩ := runVariant_records hm h hl
    obtain ⟨hmv, hmparent, hmconflicts, hmrecords⟩ := runVariant_records hm h hmod
    constructor
    case services =>
      intro id hid
      have hservice := service_of_mem hm h hid
      refine ⟨?_, hservice.kind⟩
      rw [Registry.get?]
      exact congrArg Except.ok hservice.lookup
    case below => exact List.forall_mem_cons.2 ⟨hlparent, List.forall_mem_singleton.2 hmparent⟩
    case records => exact List.forall_mem_cons.2 ⟨hlrecords, List.forall_mem_singleton.2 hmrecords⟩
    case conflicts =>
      exact List.forall_mem_cons.2 ⟨hlconflicts, List.forall_mem_singleton.2 hmconflicts⟩
    case artifacts => rw [runVariant_artifacts hm h hl, runVariant_artifacts hm h hmod]
    case stored =>
      intro t t₁ t₂ t₃ k k' hk hk'
      obtain ⟨htypes, hbindings⟩ := compile_stored hk
      obtain ⟨htypes', hbindings'⟩ := compile_stored hk'
      refine ⟨htypes, htypes', [("format", .text Metadata.formatName),
        ("version", .int Metadata.version), ("run_id", .text c.runId)],
        [("records", .list (l.registry.records.map Metadata.recordValue))], ?_, ?_⟩
      · rw [hbindings, hlv]
        rfl
      · rw [hbindings', hmv, Metadata.bindingsText, Metadata.document, hmrecords, ← hlrecords]
        rfl
  · obtain ⟨-, -, -, -, -, -, -, hcommon⟩ := runVariant_inv hl
    exact hcommon
  · obtain ⟨-, -, -, -, -, -, -, hcommon⟩ := runVariant_inv hmod
    exact hcommon

/-- A service with two endpoints of one identifier and an enumeration, which every compiler
accepts. -/
def shopService : Generator where
  model := {
    endpointGroups := [(.text "urn:shop", [
      { qualifiedName := .text "north.Shop", targetNamespace := .text "urn:shop" },
      { qualifiedName := .text "shop.Shop", targetNamespace := .text "urn:shop" }])]
    schemaGroups := [(.text "urn:shop", {
      types := [{ qualifiedName := .text "shop.Size", space := .text "urn:shop", kind := .enum
                  values := [.text "small", .text "large"] }] })] }
  settings := { runId := "run", outputDir := ⟨"", ["out"]⟩ }
  resolver := ⟨[(["north"], ["shop"])]⟩
  renderer := .shipped
  compiler := ⟨fun _ => pure { success := true }⟩

def compileBoth (g : Generator) : Run (CommonResult × CompiledVariant × CompiledVariant) := do
  let c ← g.runCommon
  let l ← g.runVariant .legacy (some c)
  let m ← g.runVariant .modern (some c)
  return (c, ← g.compile l (some c), ← g.compile m (some c))

theorem variants_agree_shops : shopService.model.Typed ∧
    ∃ c l m s s₁ s₂ s₃, shopService.runCommon.Returns {} c s ∧
      (shopService.runVariant .legacy (some c)).Returns s l s₁ ∧
      (shopService.runVariant .modern (some c)).Returns s₁ m s₂ ∧
      (∃ k, (shopService.compile l (some c)).Returns s₂ k s₃) ∧
      (∃ k s₄, (shopService.compile m (some c)).Returns s₃ k s₄) ∧
      shopService.RecordsImpls c ∧ shopService.VariantsAgree c l m ∧ s₂.common = s.common := by
  have hm : shopService.model.Typed := by decide
  have hok : (shopService.compileBoth.run.run {}).1.isOk = true := by decide +kernel
  obtain ⟨⟨c, k, k'⟩, s₄, h⟩ := Run.returns_of_isOk hok
  obtain ⟨c, s, hc, h⟩ := Run.returns_bind.1 h
  obtain ⟨l, s₁, hl, h⟩ := Run.returns_bind.1 h
  obtain ⟨m, s₂, hmod, h⟩ := Run.returns_bind.1 h
  obtain ⟨k, s₃, hk, h⟩ := Run.returns_bind.1 h
  obtain ⟨k', s₄, hk', -⟩ := Run.returns_bind.1 h
  obtain ⟨hrecords, hboth⟩ := variants_agree hm hc
  obtain ⟨hagree, hcommon, hcommon'⟩ := hboth _ _ _ _ _ _ hl hmod
  exact ⟨hm, c, l, m, s, s₁, s₂, s₃, hc, hl, hmod, ⟨k, hk⟩, ⟨k', s₄, hk'⟩, hrecords, hagree,
    hcommon'.trans hcommon⟩

end Generator

end SoapStubs
