import SoapStubs.Proofs.Coverage
import SoapStubs.Proofs.Room

/-!
# Models that the variants accept

Which models a variant phase refuses that the common phase has accepted.

* `Generator.Accepts` is the condition: the types of parameters and results have names, but for
  lists in the legacy variant, which has no use for the name of their elements; and no
  implementation has the identifier of an endpoint;
* `succeeds_variantScript` says that the script of the phase has a result exactly if the types have
  the names, `Generator.performAll_fails_cases` at which steps the phase can fail;
* `Generator.variants_accept`: a phase returns for models that it accepts only, and fails with an
  integrity error for others, unless a class cannot be written.  Where there is room, it returns for
  all of them.  So **both variants accept the same models, but for lists without a name**.
-/

namespace SoapStubs

/-! ### Success -/

namespace Script

variable {α β : Type} {P : Prop} {x : Script α} {f : α → Script β}

theorem succeeds_bind_iff :
    Succeeds (x >>= f).result ↔ ∃ a, x.result = .ok a ∧ Succeeds (f a).result := by
  cases h : x.result with
  | error e =>
    rw [bind_of_error h]
    exact iff_of_false nofun (by simp)
  | ok a =>
    rw [bind_of_ok h]
    simp

theorem succeeds_bind (hf : ∀ a, Succeeds (f a).result ↔ P) :
    Succeeds (x >>= f).result ↔ Succeeds x.result ∧ P := by
  simp only [succeeds_bind_iff, hf, exists_and_right]
  rfl

theorem succeeds_bind_ok (hf : ∀ a, Succeeds (f a).result) :
    Succeeds (x >>= f).result ↔ Succeeds x.result := by
  rw [succeeds_bind fun a => iff_true_intro (hf a), and_true]

theorem succeeds_each {l : List α} :
    Succeeds (each f l).result ↔ ∀ a ∈ l, Succeeds (f a).result := by
  induction l with
  | nil => exact iff_of_true ⟨[], rfl⟩ nofun
  | cons a l ih =>
    rw [List.forall_mem_cons, ← ih]
    exact succeeds_bind fun b => succeeds_bind_ok fun bs => succeeds_ok (b :: bs)

end Script

/-! ### Names of types -/

/-- The reference has a name. -/
def TypeRef.IsNamed (ref : TypeRef) : Prop := ref.qualifiedName.nameText ≠ ""

/-- The variant can do with the reference. -/
def Variant.Takes (v : Variant) (ref : TypeRef) : Prop :=
  ref.IsNamed ∨ v = .legacy ∧ ref.isCollection = true

/-- The types of the result and of the parameters. -/
def Operation.types (o : Operation) : List TypeRef :=
  o.result.type.toList ++ o.parameters.flatMap (·.type.toList)

/-- The types of the results and parameters of all operations. -/
def ServiceModel.signatureTypes (m : ServiceModel) : List TypeRef :=
  m.endpoints.flatMap fun e => e.operations.flatMap Operation.types

/-- The members of a type and its base have names. -/
structure TypeDefinition.Named (t : TypeDefinition) : Prop where
  members : ∀ m ∈ t.members, m.type.IsNamed
  base : ∀ ref ∈ t.base, ref.IsNamed

instance (ref : TypeRef) : Decidable ref.IsNamed := inferInstanceAs (Decidable (_ ≠ _))

section

variable {r : Resolver} {v : Variant} {ref : TypeRef}

theorem Resolver.succeeds_resolve (h : ref.Typed) : Succeeds (r.resolve ref) ↔ ref.IsNamed := by
  by_cases hs : ref.qualifiedName.nameText = ""
  · refine iff_of_false ?_ fun hnamed => hnamed hs
    rintro ⟨id, hid⟩
    exact (r.resolve_error h.qualifiedName hs).ne_ok id hid
  · exact iff_of_true ⟨_, r.resolve_ok (h.qualifiedName.eq_text hs) hs⟩ hs

/-- **What a variant can do with**: the legacy one does not look at the name of a list. -/
theorem Resolver.succeeds_resolveType (h : ref.Typed) :
    Succeeds (r.resolveType (some ref) v) ↔ v.Takes ref := by
  have hresolve := r.succeeds_resolve h
  show Succeeds (if !ref.isCollection then r.resolve ref else _) ↔ _
  cases hlist : ref.isCollection with
  | false => simp [Variant.Takes, hlist, hresolve]
  | true =>
    cases v with
    | legacy => exact iff_of_true (succeeds_ok listType) (.inr ⟨rfl, hlist⟩)
    | modern =>
      rw [if_neg (by simp), succeeds_map, Resolver.resolveElement, succeeds_map, hresolve]
      exact (or_iff_left (by simp)).symm

theorem succeeds_operationBinding {plan : OperationPlan} (h : plan.operation.Typed) :
    Succeeds (operationBinding r v plan) ↔ ∀ ref ∈ plan.operation.types, v.Takes ref := by
  have hresult : Succeeds (r.resolveType plan.operation.result.type v) ↔
      ∀ ref ∈ plan.operation.result.type, v.Takes ref := by
    cases htype : plan.operation.result.type with
    | none => exact iff_of_true (succeeds_ok "void") nofun
    | some ref => simp [Resolver.succeeds_resolveType (h.result.type ref htype)]
  have hparameter : ∀ p ∈ plan.operation.parameters, Succeeds (parameterBinding r v p) ↔
      ∀ ref ∈ p.type, v.Takes ref := by
    intro p hp
    refine (succeeds_bind_ok fun type => succeeds_ok _).trans ?_
    cases htype : p.type with
    | none => exact iff_of_true (succeeds_ok untyped) nofun
    | some ref =>
      have htyped := (h.parameters p hp).type ref htype
      simp [valueType, Resolver.succeeds_resolveType htyped]
  have hboth : Succeeds (operationBinding r v plan) ↔
      (∀ ref ∈ plan.operation.result.type, v.Takes ref) ∧
        ∀ p ∈ plan.operation.parameters, ∀ ref ∈ p.type, v.Takes ref := by
    rw [← hresult, ← forall₂_congr hparameter, ← succeeds_mapM]
    exact succeeds_bind fun type => succeeds_bind_ok fun parameters => succeeds_ok _
  rw [hboth]
  simp only [Operation.types, List.mem_append, List.mem_flatMap, Option.mem_toList, or_imp,
    forall_and, forall_exists_index, and_imp]
  exact and_congr_right fun _ =>
    ⟨fun h ref p hp hr => h p hp ref hr, fun h p hp ref hr => h ref p hp hr⟩

theorem succeeds_endpointBindings {plan : EndpointPlan}
    (h : ∀ o ∈ plan.operations, o.operation.Typed) :
    Succeeds (endpointBindings r plan v) ↔
      ∀ o ∈ plan.operations, ∀ ref ∈ o.operation.types, v.Takes ref := by
  rw [← forall₂_congr fun o ho => succeeds_operationBinding (h o ho), ← succeeds_mapM]
  exact succeeds_bind_ok fun operations => succeeds_ok _

/-- Members need a name in both variants: a list of them has a type for its elements. -/
theorem succeeds_memberBinding {m : Member} (h : m.type.Typed) :
    Succeeds (memberBinding r v m) ↔ m.type.IsNamed := by
  have htype := Resolver.succeeds_resolveType (r := r) (v := v) h
  cases hlist : m.type.isCollection with
  | false =>
    simp only [memberBinding, hlist, Bool.false_eq_true, if_false]
    refine (succeeds_bind_ok fun type => succeeds_ok _).trans (htype.trans ?_)
    simp [Variant.Takes, hlist]
  | true =>
    simp only [memberBinding, hlist, if_true]
    have helement : Succeeds ((r.resolveElement m.type v).map Value.text) ↔ m.type.IsNamed := by
      rw [succeeds_map, Resolver.resolveElement, succeeds_map, Resolver.succeeds_resolve h]
    refine (succeeds_bind fun type =>
      (succeeds_bind_ok fun component => succeeds_ok _).trans helement).trans ?_
    rw [htype]
    exact and_iff_right_of_imp .inl

theorem succeeds_typeBindings {plan : TypePlan} (h : plan.definition.Typed) :
    Succeeds (typeBindings r plan v) ↔ plan.definition.Named := by
  have hmembers : Succeeds (plan.definition.members.mapM (memberBinding r v)) ↔
      ∀ m ∈ plan.definition.members, m.type.IsNamed := by
    rw [succeeds_mapM]
    exact forall₂_congr fun m hm => succeeds_memberBinding (h.members m hm).type
  have hbase : Succeeds (baseBinding r plan.definition.base) ↔
      ∀ ref ∈ plan.definition.base, ref.IsNamed := by
    cases hb : plan.definition.base with
    | none => exact iff_of_true (succeeds_ok _) nofun
    | some ref => simp [baseBinding, succeeds_map, Resolver.succeeds_resolve (h.base ref hb)]
  have hboth : Succeeds (typeBindings r plan v) ↔ (∀ m ∈ plan.definition.members, m.type.IsNamed) ∧
      ∀ ref ∈ plan.definition.base, ref.IsNamed := by
    rw [← hmembers, ← hbase]
    exact succeeds_bind fun members => succeeds_bind_ok fun base => succeeds_ok _
  rw [hboth]
  exact ⟨fun ⟨hm, hb⟩ => ⟨hm, hb⟩, fun ⟨hm, hb⟩ => ⟨hm, hb⟩⟩

/-! ### Scripts -/

open Script

/-- The common phase has resolved the members of all types. -/
theorem named_of_commonScript {m : ServiceModel} {plan : CommonPlan} (hm : m.Typed)
    (h : (commonScript r m).result = .ok plan) : ∀ t ∈ m.types, t.Named := by
  obtain ⟨endpoints, -, h₁⟩ := succeeds_bind_iff.1 ⟨plan, h⟩
  obtain ⟨faults, -, h₂⟩ := succeeds_bind_iff.1 h₁
  obtain ⟨units, -, h₃⟩ := succeeds_bind_iff.1 h₂
  obtain ⟨types, htypes, -⟩ := succeeds_bind_iff.1 h₃
  intro t ht
  obtain ⟨id, -, hrest⟩ := succeeds_bind_iff.1 (succeeds_each.1 ⟨types, htypes⟩ t ht)
  have hbindings : Succeeds (typeBindings r ⟨id, t, m.rootElementOf t⟩ .legacy) := by
    split at hrest
    · obtain ⟨⟨⟩, -, hrest⟩ := succeeds_bind_iff.1 hrest
      obtain ⟨bindings, hbindings, -⟩ := succeeds_bind_iff.1 hrest
      exact ⟨bindings, hbindings⟩
    · obtain ⟨bindings, hbindings, -⟩ := succeeds_bind_iff.1 hrest
      exact ⟨bindings, hbindings⟩
  exact (succeeds_typeBindings (hm.types t ht)).1 hbindings

/-- **When a variant phase has a result**, given the services of the endpoints. -/
theorem succeeds_variantScript {d : Deployment} {common : Registry} {plan : CommonPlan}
    (hplan : plan.Typed) {service : String → Descriptor}
    (hservice : ∀ e ∈ plan.endpoints,
      common.lookup (.text e.identifier, .service) = some (service e.identifier)) :
    Succeeds (variantScript r v d common plan).result ↔
      (∀ e ∈ plan.endpoints, ∀ o ∈ e.operations, ∀ ref ∈ o.operation.types, v.Takes ref) ∧
        ∀ t ∈ plan.types, t.definition.Named := by
  have hendpoints : ∀ e ∈ plan.endpoints, Succeeds (endpointSources r v d common e).result ↔
      ∀ o ∈ e.operations, ∀ ref ∈ o.operation.types, v.Takes ref := by
    intro e he
    rw [← succeeds_endpointBindings (hplan.operations e he), endpointSources, hservice e he]
    refine Script.succeeds_bind_ok fun bindings => ?_
    exact succeeds_ok ()
  have htypes : ∀ t ∈ plan.types, Succeeds (typeSource r v t).result ↔ t.definition.Named := by
    intro t ht
    rw [← succeeds_typeBindings (hplan.types t ht)]
    exact Script.succeeds_bind_ok fun bindings => succeeds_ok ()
  rw [← forall₂_congr hendpoints, ← forall₂_congr htypes, ← succeeds_each, ← succeeds_each]
  refine Script.succeeds_bind fun _ => ?_
  have hfaults : Succeeds (Script.each (faultSource v) plan.faults).result :=
    succeeds_each.2 fun f _ => succeeds_ok ()
  refine (Script.succeeds_bind fun _ => Script.succeeds_bind_ok fun _ => succeeds_ok ()).trans ?_
  exact and_iff_right hfaults

end

/-! ### Steps -/

def Step.class? (step : Step) : Option String := step.label?.map Prod.snd

/-- What a step declares is seen, and nothing else. -/
def Step.declares? : Step → Option Unit
  | .declare _ _ => some ()
  | _ => none

theorem CommonPlan.outline_class? (plan : CommonPlan) (service : String → Descriptor) :
    plan.outline Step.class? (fun _ identifier => some identifier) service = plan.classes := by
  simp only [outline, classes, List.map_eq_flatMap]
  rfl

theorem CommonPlan.outline_declares? (plan : CommonPlan) (service : String → Descriptor) :
    plan.outline Step.declares? (fun _ _ => none) service = [] := by
  simp [outline, EndpointPlan.outline, Step.declares?]

namespace Site

open FileTree

variable {site : Site} {source : Source} {b b' : Bench} {s s' : Session} {steps : List Step}
  {e : Failure} {v : Variant}

/-- A source is rendered if its template is filled and there is room for it. -/
theorem not_fails_emit (hsite : site.renderer = .shipped) (hs : source.Supplied)
    (hinner : Name.IsInner source.identifier) (hv : source.variant = some v)
    (hroomy : site.Roomy v s.files) (hnames : site.Names v source.identifier) :
    ¬(site.emit source).Fails s e s' := by
  intro h
  obtain ⟨text, htext⟩ := hs.text site hsite
  obtain ⟨front, last, -, htarget⟩ := target_of_isInner hinner
  have htarget := htarget site source rfl
  have hfits := hnames source rfl hv _ htarget
  rcases emit_fails h with hrender | ⟨target, text', c, hrender, -, hsave⟩
  · rw [Site.render, htarget, htext] at hrender
    cases hrender
  · have htarget' := target_of_render hrender
    obtain rfl := Except.ok.inj (htarget.symm.trans htarget')
    obtain ⟨n, u, hmake, hwrite⟩ := hroomy.exists_save hinner hv htarget hfits (.text text')
    rcases hsave with hmake' | ⟨n', hmake', hwrite'⟩
    · cases hmake.symm.trans hmake'
    · obtain rfl := Except.ok.inj (hmake.symm.trans hmake')
      cases hwrite.symm.trans hwrite'

theorem exists_render_of_mem (h : (site.performAll b steps).Returns s b' s')
    (hmem : .emit source ∈ steps) : ∃ p text, site.render source = .ok (p, text) := by
  induction steps generalizing b s with
  | nil => cases hmem
  | cons step steps ih =>
    obtain ⟨b₁, s₁, hstep, hrest⟩ := Run.returns_bind.1 h
    rcases List.mem_cons.1 hmem with rfl | hmem
    · cases takes_of_perform hstep with
      | emit _ htarget hemit =>
        obtain ⟨text, -, hrender, -⟩ := render_returns htarget hemit
        exact ⟨_, text, hrender⟩
    · exact ih hrest hmem

/-- A source that was rendered has a path that can be taken. -/
theorem names_of_performAll (h : (site.performAll b steps).Returns s b' s')
    (hmem : .emit source ∈ steps) (hv : source.variant = some v) :
    site.Names v source.identifier := by
  obtain ⟨p, text, hrender⟩ := exists_render_of_mem h hmem
  have hlocated := (performAll_kept (.nil _) h).1.located ⟨source, p, text⟩
    (mem_emissions.2 ⟨hmem, hrender⟩)
  intro source' hid hv' p' hp'
  have hsame : site.target source' = site.target source := by
    simp only [target, hid, hv', hv]
  obtain rfl := Except.ok.inj ((target_of_render hrender).symm.trans (hsame.symm.trans hp'))
  obtain ⟨l, hl⟩ := hlocated
  exact fits_of_locate hl

/-- Steps that render inner classes of the variant leave room for more. -/
theorem roomy_performAll (hsteps : ∀ source, .emit source ∈ steps →
      source.variant = some v ∧ Name.IsInner source.identifier)
    (h : (site.performAll b steps).Returns s b' s') (hroomy : site.Roomy v s.files) :
    site.Roomy v s'.files := by
  refine performAll_files (R := fun t u => site.Roomy v t → site.Roomy v u) (fun _ => id)
    (fun h h' hroomy => h' (h hroomy)) ?_ h hroomy
  intro e he t u w hmake hwrite hroomy
  obtain ⟨hmem, hrender⟩ := mem_emissions.1 he
  obtain ⟨hv, hinner⟩ := hsteps e.source hmem
  exact (hroomy.save hinner hv (target_of_render hrender) hmake hwrite).1

end Site

/-! ### Models -/

namespace Generator

variable {g : Generator} {s s₁ u u' : Session} {c : CommonResult} {e : Failure}

/-- The variant phase can do with the model. -/
structure Accepts (g : Generator) (v : Variant) : Prop where
  /-- The types of parameters and results. -/
  types : ∀ ref ∈ g.model.signatureTypes, v.Takes ref
  apart : ∀ id ∈ g.model.endpointIds g.resolver, id ++ "Impl" ∉ g.model.endpointIds g.resolver

/-- The paths of all classes can be taken in the variant. -/
def Nameable (g : Generator) (c : CommonResult) (v : Variant) : Prop :=
  ∀ identifier ∈ c.plan.classes, g.site.Names v identifier

/-- The steps of a variant phase. -/
def variantSteps (g : Generator) (c : CommonResult) (v : Variant) : List Step :=
  (variantScript g.resolver v g.settings.deployment c.registry c.plan).steps

section

variable (hm : g.model.Typed) (h : g.runCommon.Returns s c s₁) (v : Variant)

include hm h

/-- **When the script of a variant phase has a result.** -/
theorem succeeds_iff_takes :
    Succeeds (variantScript g.resolver v g.settings.deployment c.registry c.plan).result ↔
      ∀ ref ∈ g.model.signatureTypes, v.Takes ref := by
  have hc := delivered_of_returns hm h
  obtain ⟨-, -, -, hresult⟩ := runCommon_inv h
  have htypes : ∀ t ∈ c.plan.types, t.definition.Named := fun t ht =>
    named_of_commonScript hm hresult _ (commonScript_types hm hresult t ht).1
  rw [succeeds_variantScript (typed_plan hm h) (services_of_plan hm h), and_iff_left htypes]
  constructor
  · intro hplan ref href
    obtain ⟨endpoint, hendpoint, href⟩ := List.mem_flatMap.1 href
    obtain ⟨operation, hoperation, href⟩ := List.mem_flatMap.1 href
    rw [← hc.endpoints] at hendpoint
    obtain ⟨e, he, rfl⟩ := List.mem_map.1 hendpoint
    rw [← (hc.describes e he).operations] at hoperation
    obtain ⟨o, ho, rfl⟩ := List.mem_map.1 hoperation
    exact hplan e he o ho ref href
  · intro hmodel e he o ho ref href
    refine hmodel ref (List.mem_flatMap.2 ⟨e.endpoint, hc.mem_endpoints he, ?_⟩)
    exact List.mem_flatMap.2 ⟨o.operation, hc.mem_operations he ho, href⟩

theorem not_declare_mem {identifier origin : String} :
    .declare identifier origin ∉ g.variantSteps c v := by
  intro hmem
  have hwithin : (variantScript g.resolver v g.settings.deployment c.registry c.plan).Within
      Step.declares? (c.plan.outline Step.declares? (fun _ _ => none) c.service) :=
    variantScript_within (fun _ => rfl) (services_of_plan hm h)
  rw [CommonPlan.outline_declares?] at hwithin
  have hnil := List.prefix_nil.1 hwithin.beginning
  cases List.filterMap_eq_nil_iff.1 hnil _ hmem

theorem exists_impl_of_mem {key : String} {d : Descriptor}
    (hmem : .record key d ∈ g.variantSteps c v) :
    ∃ id ∈ g.model.endpointIds g.resolver, key = id ++ "Impl" ∧ d = c.service id := by
  have hwrite : (key, d) ∈ c.implWrites (g.model.endpointIds g.resolver) :=
    (variantScript_writes hm h v).beginning.subset (List.mem_filterMap.2 ⟨_, hmem, rfl⟩)
  obtain ⟨id, hid, heq⟩ := List.mem_map.1 hwrite
  cases heq
  exact ⟨id, hid, rfl, rfl⟩

theorem within_classes :
    (variantScript g.resolver v g.settings.deployment c.registry c.plan).Within Step.class?
      c.plan.classes := by
  rw [← c.plan.outline_class? c.service]
  exact variantScript_within (fun _ => rfl) (services_of_plan hm h)

theorem class_mem_of_mem {source : Source} (hmem : .emit source ∈ g.variantSteps c v) :
    source.identifier ∈ c.plan.classes :=
  (within_classes hm h v).beginning.subset (List.mem_filterMap.2 ⟨_, hmem, rfl⟩)

theorem exists_source_of_class
    (hresult : (variantScript g.resolver v g.settings.deployment c.registry c.plan).result = .ok ())
    {identifier : String} (hmem : identifier ∈ c.plan.classes) :
    ∃ source, .emit source ∈ g.variantSteps c v ∧ source.identifier = identifier := by
  rw [← (within_classes hm h v).all () hresult] at hmem
  obtain ⟨step, hstep, hclass⟩ := List.mem_filterMap.1 hmem
  cases step with
  | emit source => exact ⟨source, hstep, Option.some.inj hclass⟩
  | declare | record | note => cases hclass

/-- **Where a variant phase fails**: with an integrity error at an implementation that has the
identifier of an endpoint, or at a source that cannot be rendered. -/
theorem performAll_fails_cases
    (hfails : (g.site.performAll { registry := .overlay c.registry {} }
      (g.variantSteps c v)).Fails u e u') :
    (e.IsIntegrity ∧ ¬g.Accepts v) ∨
      g.site.StopsAt { registry := .overlay c.registry {} } (g.variantSteps c v) u e := by
  -- the step that failed decides: none declares a type, and a note cannot fail
  obtain ⟨front, step, back, b, u₁, u₂, hsteps, hfront, hstep⟩ := Site.exists_step_of_fails hfails
  have hmem : step ∈ g.variantSteps c v := by simp [hsteps]
  cases step with
  | declare identifier origin => exact absurd hmem (not_declare_mem hm h v)
  | record key d =>
    obtain ⟨id, hid, rfl, rfl⟩ := exists_impl_of_mem hm h v hmem
    have hopen := (Site.open_performAll ⟨rfl, rfl⟩ hfront).registry
    have hparent := (Registry.writeAll_inv (Site.performAll_registry hfront)).1
    rcases perform_record_impl hm h hid hparent hopen u₁ with
      ⟨hclash, e', u₂', hfails', hintegrity⟩ | ⟨-, b', u₂', hreturns⟩
    · obtain ⟨rfl, -⟩ := hstep.unique hfails'
      exact .inl ⟨hintegrity, fun haccepts => haccepts.apart id hid hclash⟩
    · exact absurd hstep hreturns.not_fails
  | emit source =>
    rcases Run.fails_bind.1 hstep with hemit | ⟨a, u₃, -, hpure⟩
    · exact .inr ⟨front, source, back, b, u₁, u₂, hsteps, hfront, hemit⟩
    · exact absurd hpure Run.not_fails_pure
  | note event =>
    rcases Run.fails_bind.1 hstep with hnote | ⟨⟨⟩, u₃, -, hpure⟩
    · exact absurd hnote Run.not_fails_modify
    · exact absurd hpure Run.not_fails_pure

/-- **A variant phase returns for models that it accepts only**, and if the paths of all classes can
be taken. -/
theorem accepts_of_returns {r : VariantResult}
    (hr : (g.runVariant v (some c)).Returns u r u') : g.Accepts v ∧ g.Nameable c v := by
  obtain ⟨upper, b, u₁, u₂, -, hplay, -, -⟩ := runVariant_inv hr
  obtain ⟨hresult, hsteps⟩ := Site.play_returns.1 hplay
  refine ⟨⟨(succeeds_iff_takes hm h v).1 ⟨(), hresult⟩, fun id hid hclash => ?_⟩,
    fun identifier hid => ?_⟩
  · obtain ⟨endpoint, hendpoint, rfl⟩ := List.mem_map.1 hid
    obtain ⟨endpoint', hendpoint', heq⟩ := List.mem_map.1 hclash
    obtain ⟨e, u₃, hfails⟩ := (recordsImpls hm h).fails
      ⟨endpoint, hendpoint, endpoint', hendpoint', heq.symm⟩ v u
    exact absurd hfails hr.not_fails
  · obtain ⟨source, hmem, rfl⟩ := exists_source_of_class hm h v hresult hid
    exact Site.names_of_performAll hsteps hmem (variantScript_renders hm h v _ hmem).1

/-- **How a variant phase fails**: with an integrity error for a model that it does not accept, or
because a class cannot be written.  Where there is room for classes, only its path keeps a class
from being written. -/
theorem fails_cases (hshipped : g.renderer = .shipped)
    (hfails : (g.runVariant v (some c)).Fails u e u') :
    (e.IsIntegrity ∧ ¬g.Accepts v) ∨ (∃ cause, e = .bare cause ∧ cause.IsPath) ∧
      ∀ rules, Resolver.ofRules rules = .ok g.resolver →
        (∀ name ∈ g.model.classNames, Name.IsInner name) → g.site.Roomy v u.files →
          ¬g.Nameable c v := by
  have hfails : (g.runVariantOn v c).Fails u e u' := (runVariant_eq (by rfl)).symm.trans hfails
  obtain ⟨u₁, hfiles, -, ⟨r, u₂, u₃, -, hreturns, -⟩ | ⟨e', u₂, u₃, hbody, hfails', -⟩⟩ :=
    runVariantOn_cases g v c u
  · exact absurd hfails hreturns.not_fails
  obtain ⟨rfl, -⟩ := hfails.unique hfails'
  rcases Site.play_fails.1 ((variantBody_fails (above_of_returns h)).1 hbody) with
    hsteps | ⟨hresult, -⟩
  swap
  · have hintegrity := tame_variantScript (typed_plan hm h) (services_of_plan hm h) e' hresult
    refine .inl ⟨hintegrity.tag _, fun haccepts => ?_⟩
    obtain ⟨⟨⟩, hok⟩ := (succeeds_iff_takes hm h v).2 haccepts.types
    cases hresult.symm.trans hok
  rcases performAll_fails_cases hm h v hsteps with
    ⟨hintegrity, hnot⟩ | ⟨front, source, back, b, u₄, u₅, heq, hfront, hemit⟩
  · exact .inl ⟨hintegrity.tag _, hnot⟩
  have hmem : .emit source ∈ g.variantSteps c v := by simp [heq]
  have hsupplied : source.Supplied := variantScript_supplied (typed_plan hm h).types _ hmem
  obtain ⟨cause, rfl, hpath⟩ := Site.emit_fails_of_supplied hshipped hsupplied hemit
  refine .inr ⟨⟨cause, rfl, hpath⟩, fun rules hr hnames hroomy hnameable => ?_⟩
  have hinner : ∀ source, .emit source ∈ g.variantSteps c v →
      source.variant = some v ∧ Name.IsInner source.identifier := fun source hmem =>
    ⟨(variantScript_renders hm h v _ hmem).1,
      (variantScript_renders hm h v _ hmem).2.isInner hr hnames⟩
  have hroomy₄ : g.site.Roomy v u₄.files :=
    Site.roomy_performAll (fun source hmem => hinner source (by simp [heq, hmem])) hfront
      (hfiles ▸ hroomy)
  exact Site.not_fails_emit hshipped hsupplied (hinner source hmem).2 (hinner source hmem).1 hroomy₄
    (hnameable _ (class_mem_of_mem hm h v hmem)) hemit

theorem nameable_variant {rules : List Rule} (hr : Resolver.ofRules rules = .ok g.resolver)
    (hnames : ∀ name ∈ g.model.classNames, Name.IsInner name) (hv : g.Nameable c v) (w : Variant) :
    g.Nameable c w := fun identifier hid =>
  (hv identifier hid).variant ((isClass_of_mem_classes hm h hid).isInner hr hnames) w

end

/-- The modern variant accepts what the legacy one accepts, but for lists without a name. -/
theorem accepts_modern_iff : g.Accepts .modern ↔
    g.Accepts .legacy ∧ ∀ ref ∈ g.model.signatureTypes, ref.IsNamed := by
  constructor
  · intro haccepts
    have hnamed : ∀ ref ∈ g.model.signatureTypes, ref.IsNamed := fun ref href =>
      (haccepts.types ref href).resolve_right fun ⟨hv, _⟩ => nomatch hv
    exact ⟨⟨fun ref href => .inl (hnamed ref href), haccepts.apart⟩, hnamed⟩
  · rintro ⟨haccepts, hnamed⟩
    exact ⟨fun ref href => .inl (hnamed ref href), haccepts.apart⟩

theorem accepts_iff (hlists : ∀ ref ∈ g.model.signatureTypes, ref.isCollection = true → ref.IsNamed)
    (v w : Variant) : g.Accepts v ↔ g.Accepts w := by
  have himp : ∀ v, g.Accepts v → g.Accepts .modern := by
    intro v haccepts
    refine ⟨fun ref href => .inl ?_, haccepts.apart⟩
    rcases haccepts.types ref href with hnamed | ⟨-, hlist⟩
    · exact hnamed
    · exact hlists ref href hlist
  have hback : ∀ v, g.Accepts .modern → g.Accepts v := fun v haccepts =>
    ⟨fun ref href => .inl ((accepts_modern_iff.1 haccepts).2 ref href), haccepts.apart⟩
  exact ⟨fun haccepts => hback w (himp v haccepts), fun haccepts => hback v (himp w haccepts)⟩

/-- What the variant phases accept of a model that the common phase has accepted. -/
structure AcceptsAlike (g : Generator) (c : CommonResult) : Prop where
  /-- The members of types and their bases have names. -/
  members : ∀ t ∈ g.model.types, t.Named
  /-- A variant phase returns for models that it accepts only. -/
  returns : ∀ v u r u', (g.runVariant v (some c)).Returns u r u' → g.Accepts v
  /-- It fails with an integrity error for a model that it does not accept, or because the path of
  a class cannot be taken. -/
  fails : ∀ v u e u', (g.runVariant v (some c)).Fails u e u' →
    (e.IsIntegrity ∧ ¬g.Accepts v) ∨ ∃ cause, e = .bare cause ∧ cause.IsPath
  /-- Where there is room for classes, it returns for every model that it accepts, if the paths of
  the classes can be taken. -/
  returns_iff : (∀ name ∈ g.model.classNames, Name.IsInner name) → ∀ v (u : Session),
    g.site.Roomy v u.files → ((∃ r u', (g.runVariant v (some c)).Returns u r u') ↔
      g.Accepts v ∧ g.Nameable c v)
  /-- Then a model that it does not accept is an integrity error. -/
  refuses : (∀ name ∈ g.model.classNames, Name.IsInner name) → ∀ v (u : Session),
    g.site.Roomy v u.files → g.Nameable c v → ¬g.Accepts v →
      ∃ e u', (g.runVariant v (some c)).Fails u e u' ∧ e.IsIntegrity
  /-- The variants differ in lists without a name. -/
  lists : g.Accepts .modern ↔ g.Accepts .legacy ∧ ∀ ref ∈ g.model.signatureTypes, ref.IsNamed
  /-- Without such lists, if one returns, then only the path of a class lets the other one fail. -/
  agrees : (∀ ref ∈ g.model.signatureTypes, ref.isCollection = true → ref.IsNamed) →
    ∀ v w u r u', (g.runVariant v (some c)).Returns u r u' →
      ∀ x e x', (g.runVariant w (some c)).Fails x e x' → ∃ cause, e = .bare cause ∧ cause.IsPath
  /-- Where there is room for classes, one returns if and only if the other one does. -/
  alike : (∀ name ∈ g.model.classNames, Name.IsInner name) →
    (∀ ref ∈ g.model.signatureTypes, ref.isCollection = true → ref.IsNamed) → ∀ u w : Session,
      g.site.Roomy .legacy u.files → g.site.Roomy .modern w.files →
        ((∃ l u', (g.runVariant .legacy (some c)).Returns u l u') ↔
          ∃ m w', (g.runVariant .modern (some c)).Returns w m w')

/-- **Both variants accept the same models, but for lists without a name.**  If the common phase of
a typed model returns under rules that were accepted, then a type of a member without a name has
been refused.  One of a parameter or a result without a name is an integrity error in both variants,
unless it is a list: for lists the legacy variant has no use for the name. -/
theorem variants_accept {rules : List Rule} (hr : Resolver.ofRules rules = .ok g.resolver)
    (hm : g.model.Typed) (hshipped : g.renderer = .shipped)
    (h : g.runCommon.Returns s c s₁) : g.AcceptsAlike c := by
  obtain ⟨-, -, -, hresult⟩ := runCommon_inv h
  have hiff : (∀ name ∈ g.model.classNames, Name.IsInner name) → ∀ v (u : Session),
      g.site.Roomy v u.files → ((∃ r u', (g.runVariant v (some c)).Returns u r u') ↔
        g.Accepts v ∧ g.Nameable c v) := by
    intro hnames v u hroomy
    refine ⟨fun ⟨r, u', hreturns⟩ => accepts_of_returns hm h v hreturns, ?_⟩
    rintro ⟨haccepts, hnameable⟩
    rcases Run.returns_or_fails (g.runVariant v (some c)) u with hreturns | ⟨e, u', hfails⟩
    · exact hreturns
    rcases fails_cases hm h v hshipped hfails with ⟨-, hnot⟩ | ⟨-, hpath⟩
    · exact absurd haccepts hnot
    · exact absurd hnameable (hpath rules hr hnames hroomy)
  constructor
  case members => exact named_of_commonScript hm hresult
  case returns => exact fun v u r u' hreturns => (accepts_of_returns hm h v hreturns).1
  case fails =>
    intro v u e u' hfails
    exact (fails_cases hm h v hshipped hfails).imp_right And.left
  case returns_iff => exact hiff
  case refuses =>
    intro hnames v u hroomy hnameable hnot
    rcases Run.returns_or_fails (g.runVariant v (some c)) u with
      ⟨r, u', hreturns⟩ | ⟨e, u', hfails⟩
    · exact absurd (accepts_of_returns hm h v hreturns).1 hnot
    rcases fails_cases hm h v hshipped hfails with ⟨hintegrity, -⟩ | ⟨-, hpath⟩
    · exact ⟨e, u', hfails, hintegrity⟩
    · exact absurd hnameable (hpath rules hr hnames hroomy)
  case lists => exact accepts_modern_iff
  case agrees =>
    intro hlists v w u r u' hreturns x e x' hfails
    have haccepts := (accepts_iff hlists v w).1 (accepts_of_returns hm h v hreturns).1
    rcases fails_cases hm h w hshipped hfails with ⟨-, hnot⟩ | ⟨hpath, -⟩
    · exact absurd haccepts hnot
    · exact hpath
  case alike =>
    intro hnames hlists u w hu hw
    rw [hiff hnames .legacy u hu, hiff hnames .modern w hw, accepts_iff hlists .legacy .modern]
    exact and_congr_right fun _ => ⟨fun hv => nameable_variant hm h .legacy hr hnames hv .modern,
      fun hv => nameable_variant hm h .modern hr hnames hv .legacy⟩

/-- The common phase, the legacy phase, and what comes of the modern one. -/
def runBoth (g : Generator) :
    Run (CommonResult × VariantResult × Except Failure VariantResult) := do
  let c ← g.runCommon
  let l ← g.runVariant .legacy (some c)
  return (c, l, ← Run.outcome (g.runVariant .modern (some c)))

theorem runBoth_returns {l : VariantResult} {outcome : Except Failure VariantResult} {s₃ : Session}
    (h : g.runBoth.Returns s (c, l, outcome) s₃) : ∃ s₁ s₂, g.runCommon.Returns s c s₁ ∧
      (g.runVariant .legacy (some c)).Returns s₁ l s₂ ∧
      (g.runVariant .modern (some c)).run.run s₂ = (outcome, s₃) := by
  obtain ⟨c', s₁, hc, h⟩ := Run.returns_bind.1 h
  obtain ⟨l', s₂, hl, h⟩ := Run.returns_bind.1 h
  obtain ⟨outcome', s₃', hm, h⟩ := Run.returns_bind.1 h
  obtain ⟨heq, rfl⟩ := Run.returns_pure.1 h
  cases heq
  exact ⟨s₁, s₂, hc, hl, Run.returns_outcome.1 hm⟩

/-- A bell that answers with a list of nothing known. -/
def bellService : Generator where
  model := {
    endpointGroups := [(.text "urn:desk", [{
      qualifiedName := .text "desk.Bell", targetNamespace := .text "urn:desk"
      operations := [{
        name := .text "ring", result := { type := some ⟨.text "", .bool true⟩ } }] }])] }
  settings := { runId := "7", outputDir := ⟨"", ["out"]⟩ }
  resolver := ⟨[(["desk"], ["front", "desk"])]⟩
  renderer := .shipped
  compiler := ⟨fun _ => pure { success := true }⟩

/-- In an empty tree there is room for everything. -/
theorem roomy_bellService (v : Variant) : bellService.site.Roomy v {} := by
  refine ⟨⟨[(["out"], .directory), (["out", "generate"], .directory)]⟩, by rfl, ?_⟩
  have hnone : ∀ q : List String, FileTree.lookup
      ⟨[(["out"], .directory), (["out", "generate"], .directory)]⟩
      (["out", "generate"] ++ [v.name] ++ q) = none := by
    intro q
    simp [FileTree.lookup, Ordered.get?]
  constructor
  · intro q hq
    cases (hnone q).symm.trans hq
  · intro q content hq
    cases (hnone q).symm.trans hq

theorem variants_accept_bell :
    Resolver.ofRules [⟨"desk", "front.desk"⟩] = .ok bellService.resolver ∧
      bellService.model.Typed ∧ bellService.renderer = .shipped ∧
      ∃ c s, bellService.runCommon.Returns {} c s ∧ bellService.AcceptsAlike c ∧
        (∀ name ∈ bellService.model.classNames, Name.IsInner name) ∧
        (∀ v, bellService.site.Roomy v {}) ∧ (∀ v, bellService.Nameable c v) ∧
        bellService.Accepts .legacy ∧ ¬bellService.Accepts .modern ∧
        ∃ e s', (bellService.runVariant .modern (some c)).Fails {} e s' ∧ e.IsIntegrity := by
  have hr : Resolver.ofRules [⟨"desk", "front.desk"⟩] = .ok bellService.resolver := rfl
  have hm : bellService.model.Typed := by decide
  have hnames : ∀ name ∈ bellService.model.classNames, Name.IsInner name := by decide +kernel
  obtain ⟨⟨c, l, outcome⟩, s₃, hrun⟩ :=
    @Run.returns_of_isOk _ bellService.runBoth {} (by decide +kernel)
  obtain ⟨s, s₁, h, hl, -⟩ := runBoth_returns hrun
  have halike := variants_accept hr hm rfl h
  obtain ⟨haccepts, hnameable⟩ := accepts_of_returns hm h .legacy hl
  have hnot : ¬bellService.Accepts .modern := fun hmodern =>
    absurd ((halike.lists.1 hmodern).2 ⟨.text "", .bool true⟩ (.head [])) (by decide)
  have hall : ∀ v, bellService.Nameable c v := nameable_variant hm h .legacy hr hnames hnameable
  exact ⟨hr, hm, rfl, c, s, h, halike, hnames, roomy_bellService, hall, haccepts, hnot,
    halike.refuses hnames .modern {} (roomy_bellService .modern) (hall .modern) hnot⟩

/-- Is the outcome of a phase an integrity error? -/
def refuses : Except Failure VariantResult → Bool
  | .error (.error e) => e.kind == .integrity
  | _ => false

theorem exists_integrity_of_refuses {outcome : Except Failure VariantResult}
    (h : refuses outcome = true) : ∃ e : Failure, outcome = .error e ∧ e.IsIntegrity := by
  rcases outcome with (e | c) | r
  · exact ⟨.error e, rfl, e, rfl, eq_of_beq h⟩
  · cases h
  · cases h

/-- **Lists without a name tell the variants apart**: legacy sources are rendered, and the modern
phase is an integrity error. -/
theorem variants_differ_in_lists : ∃ c l s₁ s₂ e s₃, bellService.runCommon.Returns {} c s₁ ∧
    (bellService.runVariant .legacy (some c)).Returns s₁ l s₂ ∧
    (bellService.runVariant .modern (some c)).Fails s₂ e s₃ ∧ e.IsIntegrity := by
  obtain ⟨⟨c, l, outcome⟩, s₃, hrun, hcheck⟩ := @Run.returns_of_check _ bellService.runBoth {}
    (fun r => refuses r.2.2) (by decide +kernel)
  obtain ⟨s₁, s₂, h, hl, hmodern⟩ := runBoth_returns hrun
  obtain ⟨e, rfl, he⟩ := exists_integrity_of_refuses hcheck
  exact ⟨c, l, s₁, s₂, e, s₃, h, hl, hmodern, he⟩

end Generator

end SoapStubs
