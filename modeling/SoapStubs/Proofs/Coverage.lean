import SoapStubs.Proofs.Settled
import SoapStubs.Proofs.Shapes

/-!
# Templates have what they use

The phases of generation fill the shipped templates, and a template that uses a name or a member
that nobody defined is an error.  For a typed model this does not happen: each template is there,
and finds whatever it uses.

* `Template.expected` lists the names that the shipped templates expect, with their shapes, and
  `Template.covered_of_expected` that they use nothing else;
* `Source.Supplied` says that a source has values of these shapes.  `commonScript_supplied` and
  `variantScript_supplied`: the sources of the phases do;
* `Generator.phases_fill_templates` is the theorem.
-/

namespace SoapStubs

/-! ### What the templates expect -/

namespace Template

/-- The names that every source has. -/
def ownNames : Names :=
  [("run_id", .any), ("identifier", .any), ("package", .any), ("class_name", .any)]

/-- An element of a message, or a member of a type. -/
def propertyShape : Shape :=
  .record [("name", .text), ("type", .any)]

def operationShape : Shape :=
  .record [("name", .any), ("operation_name", .any), ("action", .any), ("one_way", .any),
    ("request_bean", .any), ("return_type", .any),
    ("parameters", .list (.record [("name", .any), ("type", .any)])), ("faults", .list .any)]

/-- The names of a bean that carries a message, or a fault. -/
def beanNames (carried : String) : Names :=
  [(carried, .any), ("element_name", .any), ("namespace", .any),
    ("properties", .list propertyShape)]

def typeNames : Names :=
  [("namespace", .any), ("abstract", .any), ("base", .any),
    ("root_element", .optional (.record [("name", .any), ("namespace", .any)])),
    ("members", .list (.record [("name", .text), ("type", .any), ("attribute", .any)])),
    ("values", .list .any)]

def endpointNames : Names :=
  [("impl_class_name", .any), ("target_namespace", .any), ("port_type", .any),
    ("service_name", .any), ("default_url", .any), ("operations", .list operationShape)]

def faultNames : Names :=
  [("bean", .any), ("implicit", .any), ("element_name", .any), ("namespace", .any)]

/-- The templates with the names that they expect, besides those that every source has. -/
def expected : List (String × Names) := [
  ("request-bean", beanNames "operation"), ("response-bean", beanNames "operation"),
  ("fault-bean", beanNames "fault"),
  ("enum-type-binding", ("type_identifier", .any) :: typeNames),
  ("simple-type-binding", ("type_identifier", .any) :: typeNames),
  ("complex-type-binding", ("type_identifier", .any) :: typeNames),
  ("endpoint-interface", endpointNames), ("endpoint-impl", endpointNames),
  ("web-fault", faultNames), ("legacy-enum-type", typeNames), ("modern-enum-type", typeNames),
  ("simple-type", typeNames), ("complex-type", typeNames)]

/-- Is the template there, and does it use nothing but names that are expected? -/
def coveredBy (id : String) (names : Names) : Bool :=
  match Renderer.template? id with
  | some nodes => coveredAll (ownNames ++ names) nodes
  | none => false

/-- **The shipped templates use nothing but the names that they expect.** -/
theorem covered_of_expected : ∀ t ∈ expected, coveredBy t.1 t.2 = true := by
  decide +kernel

/-! ### Bindings that supply what is expected -/

/-- The bindings have different names, and values of the shapes for the names among them. -/
@[mk_iff]
structure Supplies (names : Names) (bindings : List (String × Value)) : Prop where
  /-- The names are different. -/
  nodup : (bindings.map Prod.fst).Nodup
  /-- The names have values of their shapes. -/
  fits : ∀ n ∈ names, ∃ v, Ordered.get? bindings n.1 = some v ∧ n.2.Fits v

theorem lookup_map_value (bindings : List (String × Value)) (x : String) :
    (bindings.map fun (x, v) => (x, Seen.value v)).lookup x =
      (Ordered.get? bindings x).map .value := by
  induction bindings with
  | nil => rfl
  | cons b bindings ih =>
    rw [List.map_cons, List.lookup_cons, Ordered.get?_cons, ih]
    by_cases hx : x = b.1
    · simp [hx]
    · have hne : (x == b.1) = false := by simpa using hx
      simp [hne, Ne.symm hx]

/-- The scope of a source that is supplied has what its template expects. -/
theorem Supplies.scope_fits {site : Site} {source : Source} {names : Names}
    (h : Supplies names source.bindings) :
    Scope.Fits (ownNames ++ names) (.ofBindings (site.bindings source)) := by
  refine ⟨fun x shape hx => ?_, true, rfl⟩
  obtain ⟨front, back, heq, -⟩ := List.lookup_eq_some_iff.1 hx
  have hmem : (x, shape) ∈ ownNames ++ names := heq ▸ by simp
  suffices hget : ∃ v, Ordered.get? (site.bindings source) x = some v ∧ shape.Fits v by
    obtain ⟨v, hv, hfits⟩ := hget
    refine ⟨v, ?_, hfits⟩
    rw [Scope.look, Scope.ofBindings, lookup_map_value, hv]
    rfl
  rcases List.mem_append.1 hmem with hown | hname
  · -- an own name has a value, whichever was put there last
    have hkey : x ∈ Ordered.keys (site.bindings source) := by
      refine (Ordered.mem_keys_putAll _ _ _).2 (.inl ?_)
      simpa [ownNames, Ordered.keys] using List.mem_map_of_mem (f := Prod.fst) hown
    have hany : shape = .any := by
      simp only [ownNames, List.mem_cons, Prod.mk.injEq, List.not_mem_nil, or_false] at hown
      rcases hown with ⟨-, h⟩ | ⟨-, h⟩ | ⟨-, h⟩ | ⟨-, h⟩ <;> exact h
    obtain ⟨v, hv⟩ := Option.ne_none_iff_exists'.1 fun hnone =>
      Ordered.get?_eq_none_iff_notMem.1 hnone hkey
    exact ⟨v, hv, hany ▸ trivial⟩
  · obtain ⟨v, hv, hfits⟩ := h.fits _ hname
    obtain ⟨x', hbound, hx'⟩ := Ordered.exists_mem_of_get?_eq_some hv
    rw [eq_of_beq hx'] at hbound
    exact ⟨v, Ordered.get?_putAll_of_mem _ h.nodup hbound, hfits⟩

end Template

/-- The source has what its template expects. -/
def Source.Supplied (source : Source) : Prop :=
  ∃ names, (source.template, names) ∈ Template.expected ∧
    Template.Supplies names source.bindings

/-- **A source that is supplied is rendered** from the shipped templates. -/
theorem Source.Supplied.text {source : Source} (h : source.Supplied) (site : Site)
    (hsite : site.renderer = .shipped) :
    ∃ text, site.renderer.text source.template (site.bindings source) = .ok text := by
  obtain ⟨names, hexpected, hsupplies⟩ := h
  have hcovered := Template.covered_of_expected _ hexpected
  rw [Template.coveredBy] at hcovered
  split at hcovered
  · rename_i nodes hnodes
    rw [hsite, TemplateRenderer.shipped_text hnodes]
    exact Template.renderAll_of_covered nodes hsupplies.scope_fits hcovered
  · cases hcovered

/-! ### The bindings of the phases -/

section

open Template

variable {r : Resolver} {v : Variant} {w : Value}

theorem fits_propertyBinding {c : ChildElement} (hc : c.Typed)
    (h : propertyBinding r v c = .ok w) : propertyShape.Fits w := by
  obtain ⟨type, -, rfl⟩ := return_eq_ok.1 h
  exact ⟨⟨_, rfl, hc.elementName⟩, ⟨_, rfl, trivial⟩, trivial⟩

theorem fits_propertyBindings {children : List ChildElement} (hc : ∀ c ∈ children, c.Typed)
    (h : propertyBindings r children v = .ok w) : (Shape.list propertyShape).Fits w := by
  obtain ⟨items, hitems, rfl⟩ := return_eq_ok.1 h
  refine ⟨items, rfl, fun item hitem => ?_⟩
  obtain ⟨c, hmem, hbinding⟩ := exists_of_mapM hitems item hitem
  exact fits_propertyBinding (hc c hmem) hbinding

theorem fits_memberBinding {m : Member} (hm : m.Typed) (h : memberBinding r v m = .ok w) :
    (Shape.record [("name", .text), ("type", .any), ("attribute", .any)]).Fits w := by
  obtain ⟨type, component, rfl⟩ : ∃ type component, w = .record [("name", m.name),
      ("type", .text type), ("component_type", component), ("collection", m.type.collection),
      ("attribute", .bool m.isAttribute)] := by
    obtain ⟨type, -, h⟩ := bind_eq_ok.1 h
    by_cases hcollection : m.type.isCollection = true
    · obtain ⟨component, -, rfl⟩ := return_eq_ok.1 ((if_pos hcollection).symm.trans h)
      exact ⟨type, component, rfl⟩
    · obtain ⟨component, -, rfl⟩ := return_eq_ok.1 ((if_neg hcollection).symm.trans h)
      exact ⟨type, component, rfl⟩
  exact ⟨⟨_, rfl, hm.name⟩, ⟨_, rfl, trivial⟩, ⟨_, rfl, trivial⟩, trivial⟩

theorem fits_rootBinding (e : Option RootElement) :
    (Shape.optional (.record [("name", .any), ("namespace", .any)])).Fits (rootBinding e) := by
  intro htrue
  cases e with
  | none => cases htrue
  | some e => exact ⟨⟨_, rfl, trivial⟩, ⟨_, rfl, trivial⟩, trivial⟩

/-- What the bindings of a type are. -/
theorem typeBindings_inv {plan : TypePlan} {bindings : List (String × Value)}
    (h : typeBindings r plan v = .ok bindings) : ∃ members base,
      plan.definition.members.mapM (memberBinding r v) = .ok members ∧
      bindings = [("namespace", plan.definition.space),
        ("kind", Labelled.value plan.definition.kind),
        ("abstract", .bool plan.definition.isAbstract), ("base", base),
        ("root_element", rootBinding plan.rootElement), ("members", .list members),
        ("values", .list plan.definition.values), ("variant", .text v.name)] := by
  obtain ⟨members, hmembers, h⟩ := bind_eq_ok.1 h
  obtain ⟨base, -, rfl⟩ := return_eq_ok.1 h
  exact ⟨members, base, hmembers, rfl⟩

theorem supplies_typeBindings {plan : TypePlan} (ht : plan.definition.Typed)
    {bindings : List (String × Value)} (h : typeBindings r plan v = .ok bindings) (id : String) :
    Supplies typeNames bindings ∧
      Supplies (("type_identifier", .any) :: typeNames)
        (bindings ++ [("type_identifier", .text id)]) := by
  obtain ⟨members, base, hmembers, rfl⟩ := typeBindings_inv h
  have hlist : (Shape.list (.record [("name", .text), ("type", .any), ("attribute", .any)])).Fits
      (.list members) := by
    refine ⟨members, rfl, fun member hmember => ?_⟩
    obtain ⟨m, hm, hbinding⟩ := exists_of_mapM hmembers member hmember
    exact fits_memberBinding (ht.members m hm) hbinding
  have hvalues : (Shape.list .any).Fits (.list plan.definition.values) :=
    ⟨_, rfl, fun _ _ => trivial⟩
  simp only [supplies_iff, typeNames, List.forall_mem_cons]
  refine ⟨⟨by simp, ?_⟩, ⟨by simp, ?_⟩⟩
  · exact ⟨⟨_, rfl, trivial⟩, ⟨_, rfl, trivial⟩, ⟨_, rfl, trivial⟩, ⟨_, rfl, fits_rootBinding _⟩,
      ⟨_, rfl, hlist⟩, ⟨_, rfl, hvalues⟩, nofun⟩
  · exact ⟨⟨_, rfl, trivial⟩, ⟨_, rfl, trivial⟩, ⟨_, rfl, trivial⟩, ⟨_, rfl, trivial⟩,
      ⟨_, rfl, fits_rootBinding _⟩, ⟨_, rfl, hlist⟩, ⟨_, rfl, hvalues⟩, nofun⟩

theorem fits_operationBinding {plan : OperationPlan} (h : operationBinding r v plan = .ok w) :
    operationShape.Fits w := by
  obtain ⟨type, parameters, hparameters, rfl⟩ : ∃ type parameters,
      plan.operation.parameters.mapM (parameterBinding r v) = .ok parameters ∧
      w = .record [("name", plan.operation.name), ("operation_name", plan.operation.wireName),
        ("action", plan.operation.action), ("one_way", .bool plan.operation.oneWay),
        ("request_bean", optionalText plan.requestBean),
        ("response_bean", optionalText plan.responseBean), ("return_type", .text type),
        ("parameters", .list parameters), ("faults", .texts plan.faults)] := by
    obtain ⟨type, -, h⟩ := bind_eq_ok.1 h
    obtain ⟨parameters, hparameters, rfl⟩ := return_eq_ok.1 h
    exact ⟨type, parameters, hparameters, rfl⟩
  have hlist : (Shape.list (.record [("name", .any), ("type", .any)])).Fits (.list parameters) := by
    refine ⟨parameters, rfl, fun parameter hparameter => ?_⟩
    obtain ⟨p, -, hbinding⟩ := exists_of_mapM hparameters parameter hparameter
    obtain ⟨type, -, rfl⟩ := return_eq_ok.1 hbinding
    exact ⟨⟨_, rfl, trivial⟩, ⟨_, rfl, trivial⟩, trivial⟩
  have hfaults : (Shape.list .any).Fits (.texts plan.faults) := ⟨_, rfl, fun _ _ => trivial⟩
  exact ⟨⟨_, rfl, trivial⟩, ⟨_, rfl, trivial⟩, ⟨_, rfl, trivial⟩, ⟨_, rfl, trivial⟩,
    ⟨_, rfl, trivial⟩, ⟨_, rfl, trivial⟩, ⟨_, rfl, hlist⟩, ⟨_, rfl, hfaults⟩, trivial⟩

theorem supplies_endpointBindings {plan : EndpointPlan} {bindings : List (String × Value)}
    (h : endpointBindings r plan v = .ok bindings) (url : Value) :
    Supplies endpointNames (bindings ++ [("default_url", url)]) := by
  obtain ⟨operations, hoperations, rfl⟩ := return_eq_ok.1 h
  have hlist : (Shape.list operationShape).Fits (.list operations) := by
    refine ⟨operations, rfl, fun operation hoperation => ?_⟩
    obtain ⟨o, -, hbinding⟩ := exists_of_mapM hoperations operation hoperation
    exact fits_operationBinding hbinding
  simp only [supplies_iff, endpointNames, List.forall_mem_cons]
  exact ⟨by simp, ⟨_, rfl, trivial⟩, ⟨_, rfl, trivial⟩, ⟨_, rfl, trivial⟩, ⟨_, rfl, trivial⟩,
    ⟨_, rfl, trivial⟩, ⟨_, rfl, hlist⟩, nofun⟩

theorem supplies_beanNames {carried : String} (hcarried : carried ∈ ["operation", "fault"])
    {children : List ChildElement} (hc : ∀ c ∈ children, c.Typed) {properties : Value}
    (h : propertyBindings r children v = .ok properties) (of name space : Value) :
    Supplies (beanNames carried) [(carried, of), ("element_name", name), ("namespace", space),
      ("properties", properties)] := by
  have hlist := fits_propertyBindings hc h
  simp only [supplies_iff, beanNames, List.forall_mem_cons]
  rcases List.mem_pair.1 hcarried with rfl | rfl <;>
    exact ⟨by simp, ⟨_, rfl, trivial⟩, ⟨_, rfl, trivial⟩, ⟨_, rfl, trivial⟩, ⟨_, rfl, hlist⟩, nofun⟩

/-! ### The sources of the phases -/

/-- The step renders nothing but sources that are supplied. -/
def Step.Supplied : Step → Prop
  | .emit source => source.Supplied
  | _ => True

theorem Operation.Typed.bean {o : Operation} (ho : o.Typed) {b : BeanMessage}
    (hb : b ∈ o.beanMessages) : b.Typed := by
  obtain ⟨message, hmessage, hbean⟩ := List.mem_filterMap.1 hb
  have htyped := ho.messages message hmessage
  cases message with
  | bean m => exact Option.some.inj hbean ▸ htyped
  | fault f => cases hbean

/-- What is rendered for something that belongs to a typed model is supplied. -/
theorem Origin.supplied {m : ServiceModel} (hm : m.Typed) {o : Origin} (ho : o.Belongs r m)
    {source : Source} (h : o.source r m = .ok source) : source.Supplied := by
  cases o with
  | message key b =>
    obtain ⟨e, he, operation, hoperation, hb, -⟩ := ho
    have htyped := ((hm.endpoints e he).operations operation hoperation).bean hb
    obtain ⟨properties, hproperties, rfl⟩ := return_eq_ok.1 h
    refine ⟨beanNames "operation", ?_,
      supplies_beanNames (by simp) htyped.children hproperties _ _ _⟩
    cases b.wrapper.isRequest <;> simp [expected]
  | carrier f =>
    obtain ⟨-, faults, hfaults, hf⟩ := ho
    have htyped := hm.faults _ (resolvedFault_mem hm.faults hfaults f hf)
    obtain ⟨properties, hproperties, rfl⟩ := return_eq_ok.1 h
    exact ⟨beanNames "fault", by simp [expected],
      supplies_beanNames (by simp) htyped.children hproperties _ _ _⟩
  | type t =>
    obtain ⟨bindings, hbindings, rfl⟩ := return_eq_ok.1 h
    refine ⟨("type_identifier", .any) :: typeNames, ?_,
      (supplies_typeBindings (hm.types t ho) hbindings _).2⟩
    cases t.kind <;> simp [expected, TypeKind.bindingTemplate]

/-- The sources of the common phase are supplied. -/
theorem commonScript_supplied {m : ServiceModel} (hm : m.Typed) :
    (commonScript r m).Every Step.Supplied := by
  intro step hstep
  have hemits := commonScript_emits hm step hstep
  cases step with
  | emit source =>
    obtain ⟨o, ho, hsource⟩ := hemits
    exact o.supplied hm ho hsource
  | declare | record | note => trivial

/-- The sources of a variant phase are supplied. -/
theorem variantScript_supplied {d : Deployment} {common : Registry} {plan : CommonPlan}
    (htypes : ∀ t ∈ plan.types, t.definition.Typed) :
    (variantScript r v d common plan).Every Step.Supplied := by
  refine Script.every_bind (Script.every_each fun e _ => ?_) fun _ _ => ?_
  · refine Script.every_bind (Script.every_lift _) fun bindings hbindings => ?_
    have hsupplies := supplies_endpointBindings hbindings (.text (d.url e.endpoint.service.plain))
    refine Script.every_bind (Script.every_take ⟨_, ?_, hsupplies⟩) fun _ _ => ?_
    · simp [expected]
    refine Script.every_bind (Script.every_take ⟨_, ?_, hsupplies⟩) fun _ _ => ?_
    · simp [expected]
    split
    · exact Script.every_lift _
    · exact Script.every_take trivial
  refine Script.every_bind (Script.every_each fun f _ => ?_) fun _ _ => ?_
  · refine Script.every_take ⟨faultNames, by simp [expected], ?_⟩
    simp only [supplies_iff, faultNames, List.forall_mem_cons]
    exact ⟨by simp, ⟨_, rfl, trivial⟩, ⟨_, rfl, trivial⟩, ⟨_, rfl, trivial⟩, ⟨_, rfl, trivial⟩,
      nofun⟩
  refine Script.every_bind (Script.every_each fun t ht => ?_) fun _ _ => Script.every_pure _
  refine Script.every_bind (Script.every_lift _) fun bindings hbindings => ?_
  refine Script.every_take ⟨typeNames, ?_, (supplies_typeBindings (htypes t ht) hbindings "").1⟩
  cases t.definition.kind <;> cases v <;> simp [expected, TypeKind.template]

end

/-! ### Failures -/

/-- The failure is about a template that cannot be rendered. -/
def Failure.IsRendering (f : Failure) : Prop :=
  ∃ e id, f = .error e ∧ e.problem = .cannotRender id

/-- The failure is no error of the library, or an integrity error. -/
def Failure.IntegrityAtMost (f : Failure) : Prop := ∀ e, f = .error e → e.kind = .integrity

theorem Failure.IsIntegrity.atMost {f : Failure} (h : f.IsIntegrity) : f.IntegrityAtMost := by
  obtain ⟨e, rfl, hkind⟩ := h
  rintro e' ⟨⟩
  exact hkind

theorem Failure.integrityAtMost_bare (c : Cause) : (Failure.bare c).IntegrityAtMost := by
  intro e h
  cases h

theorem Failure.IntegrityAtMost.tag {f : Failure} (h : f.IntegrityAtMost)
    (facts : List (String × Value)) : (f.tag facts).IntegrityAtMost := by
  cases f with
  | bare c => exact integrityAtMost_bare c
  | error e =>
    rintro e' ⟨⟩
    exact h e rfl

theorem Failure.IntegrityAtMost.not_isRendering {f : Failure} (h : f.IntegrityAtMost) :
    ¬f.IsRendering := by
  rintro ⟨e, id, rfl, hproblem⟩
  have hkind : e.problem.kind = .integrity := h e rfl
  rw [hproblem] at hkind
  cases hkind

/-- What keeps a path from being taken: the file system refuses it, or it is no path. -/
def Cause.IsPath (c : Cause) : Prop :=
  (∃ problem path, c = .file problem path) ∨ ∃ message, c = .invalid message

theorem Cause.isPath_cause (problem : FileProblem) (path : String) :
    (problem.cause path).IsPath := by
  cases problem <;> first | exact .inl ⟨_, _, rfl⟩ | exact .inr ⟨_, rfl⟩

namespace Site

variable {site : Site} {source : Source} {b : Bench} {s s' : Session} {steps : List Step}
  {e : Failure}

/-- A source that is supplied fails where its file cannot be written, if at all. -/
theorem emit_fails_of_supplied (hsite : site.renderer = .shipped) (hs : source.Supplied)
    (h : (site.emit source).Fails s e s') : ∃ c, e = .bare c ∧ c.IsPath := by
  obtain ⟨text, htext⟩ := hs.text site hsite
  rcases emit_fails h with hrender | ⟨target, text, c, -, rfl, hroom | ⟨t, -, hwrite⟩⟩
  · rcases bind_eq_error.1 hrender with htarget | ⟨target, -, hrender⟩
    · unfold Site.target at htarget
      dsimp only at htarget
      split at htarget
      · cases htarget
      · exact ⟨_, (Except.error.inj htarget).symm, .inr ⟨_, rfl⟩⟩
    · rw [htext] at hrender
      cases hrender
  · obtain ⟨problem, path, rfl⟩ := FileTree.makeDirectories_error hroom
    exact ⟨_, rfl, Cause.isPath_cause problem path⟩
  · obtain ⟨problem, path, rfl⟩ := FileTree.write_error hwrite
    exact ⟨_, rfl, Cause.isPath_cause problem path⟩

/-- Steps that render nothing but what is supplied fail with integrity errors at most. -/
theorem performAll_fails_of_supplied (hsite : site.renderer = .shipped) (hb : b.Open)
    (hsteps : ∀ step ∈ steps, step.Supplied) (h : (site.performAll b steps).Fails s e s') :
    e.IntegrityAtMost := by
  rcases performAll_fails hb h with hintegrity | ⟨front, source, back, b₁, s₁, s₂, rfl, -, hfails⟩
  · exact hintegrity.atMost
  · obtain ⟨c, rfl, -⟩ := emit_fails_of_supplied hsite (hsteps (.emit source) (by simp)) hfails
    exact Failure.integrityAtMost_bare c

end Site

/-! ### What the variant phases refuse -/

/-- **The plans of a typed model are at worst inconsistent**: that a variant phase has no result is
an integrity error. -/
theorem tame_variantScript {r : Resolver} {v : Variant} {d : Deployment} {common : Registry}
    {plan : CommonPlan} (hplan : plan.Typed) {service : String → Descriptor}
    (hservice : ∀ e ∈ plan.endpoints,
      common.lookup (.text e.identifier, .service) = some (service e.identifier)) :
    Tame (variantScript r v d common plan).result := by
  intro f hf
  refine ((mild_variantScript r v d common plan).failure f hf).2 ⟨hplan, fun e he => ?_⟩
  rw [hservice e he]
  exact Option.some_ne_none _

namespace Generator

variable {g : Generator} {s s₁ : Session} {c : CommonResult}

theorem typed_plan (hm : g.model.Typed) (h : g.runCommon.Returns s c s₁) : c.plan.Typed := by
  have hc := delivered_of_returns hm h
  obtain ⟨-, -, -, hresult⟩ := runCommon_inv h
  constructor
  · intro e he o ho
    exact (hm.endpoints _ (hc.mem_endpoints he)).operations _ (hc.mem_operations he ho)
  · intro t ht
    exact hm.types _ (commonScript_types hm hresult t ht).1

end Generator

/-! ### What is rendered on the way -/

namespace Run

variable {α β : Type} {R : Session → Session → Prop} {x : Run α} {f : α → Run β}

/-- A relation of sessions that does not see anything but what was rendered. -/
structure SeesRenderings (R : Session → Session → Prop) : Prop where
  /-- Where nothing was rendered, sessions are related. -/
  quiet : ∀ {s s'}, s'.renderings = s.renderings → R s s'
  /-- Steps can be put together. -/
  trans : ∀ {s t u}, R s t → R t u → R s u

variable (hR : SeesRenderings R)

include hR

theorem SeesRenderings.follows : Follows R := ⟨fun _ => hR.quiet rfl, hR.trans⟩

theorem always_quiet {g : Session → Session} (hg : ∀ s, (g s).renderings = s.renderings) :
    (modify g : Run Unit).Always R := always_modify fun s => hR.quiet (hg s)

theorem always_logged (l : Logged α) : (logged l).Always R := by
  refine always_bind hR.follows (always_quiet hR fun s => ?_) fun _ => always_lift hR.follows _
  induction l.events generalizing s with
  | nil => rfl
  | cons event events ih => exact ih (s.log event)

theorem always_onFiles (t : FileTree → Except Failure FileTree) : (onFiles t).Always R :=
  always_bind hR.follows (always_get hR.follows) fun _ =>
    always_bind hR.follows (always_lift hR.follows _) fun _ => always_quiet hR fun _ => rfl

theorem always_inPhase (hx : x.Always R) (phase : String) (facts : List (String × Value)) :
    (inPhase phase facts x).Always R := by
  have hF := hR.follows
  refine always_bind hF (always_get hF) fun outside => ?_
  refine always_bind hF (always_lift hF _) fun inside => ?_
  refine always_bind hF (always_quiet hR fun _ => rfl) fun _ => ?_
  refine always_bind hF (always_quiet hR fun _ => rfl) fun _ => ?_
  refine always_bind hF (always_outcome hx) fun r => ?_
  cases r with
  | ok a =>
    refine always_bind hF (always_quiet hR fun _ => rfl) fun _ => ?_
    exact always_bind hF (always_quiet hR fun _ => rfl) fun _ => always_pure hF a
  | error e =>
    refine always_bind hF (always_quiet hR fun _ => rfl) fun _ => ?_
    exact always_bind hF (always_quiet hR fun _ => rfl) fun _ => always_lift hF _

end Run

namespace Site

variable {site : Site} {R : Session → Session → Prop}

/-- Steps keep a relation if rendering a single source does. -/
theorem always_performAll (hR : Run.SeesRenderings R) {steps : List Step}
    (h : ∀ source, .emit source ∈ steps → (site.emit source).Always R) (b : Bench) :
    (site.performAll b steps).Always R := by
  have hF := hR.follows
  induction steps generalizing b with
  | nil => exact Run.always_pure hF b
  | cons step steps ih =>
    refine Run.always_bind hF ?_ fun b' =>
      ih (fun source hsource => h source (List.mem_cons_of_mem _ hsource)) b'
    cases step with
    | declare identifier origin =>
      exact Run.always_bind hF (Run.always_lift hF _) fun _ => Run.always_pure hF _
    | record key d =>
      exact Run.always_bind hF (Run.always_logged hR _) fun _ => Run.always_pure hF _
    | emit source =>
      exact Run.always_bind hF (h source List.mem_cons_self) fun _ => Run.always_pure hF _
    | note event =>
      exact Run.always_bind hF (Run.always_quiet hR fun _ => rfl) fun _ => Run.always_pure hF _

end Site

/-! ### The theorem -/

namespace Generator

variable {g : Generator} {s s' s₁ : Session} {c : CommonResult}

/-- Whatever was rendered between the sessions, its template was there and had what it uses. -/
def Filled (g : Generator) (s s' : Session) : Prop :=
  ∀ rendering ∈ s'.renderings, rendering ∈ s.renderings ∨
    ∃ text, g.renderer.text rendering.template rendering.bindings = .ok text

theorem seesRenderings_filled (g : Generator) : Run.SeesRenderings g.Filled where
  quiet h rendering hrendering := .inl (h ▸ hrendering)
  trans h h' rendering hrendering := by
    rcases h' rendering hrendering with hmem | htext
    · exact h rendering hmem
    · exact .inr htext

theorem always_emit (hshipped : g.renderer = .shipped) {source : Source}
    (hs : source.Supplied) : (g.site.emit source).Always g.Filled := by
  have hR := g.seesRenderings_filled
  have hF := hR.follows
  refine Run.always_bind hF (Run.always_lift hF _) fun target => ?_
  refine Run.always_bind hF ?_ fun _ => ?_
  · intro s outcome s' h
    cases h
    intro rendering hrendering
    rcases List.mem_append.1 hrendering with hmem | hnew
    · exact .inl hmem
    · rw [List.mem_singleton.1 hnew]
      exact .inr (hs.text g.site hshipped)
  exact Run.always_bind hF (Run.always_onFiles hR _) fun _ =>
    Run.always_bind hF (Run.always_quiet hR fun _ => rfl) fun _ => Run.always_pure hF _

theorem always_play (hshipped : g.renderer = .shipped) {α : Type} {script : Script α}
    (h : script.Every Step.Supplied) (b : Bench) : (g.site.play b script).Always g.Filled := by
  have hR := g.seesRenderings_filled
  have hF := hR.follows
  refine Run.always_bind hF ?_ fun b' =>
    Run.always_bind hF (Run.always_lift hF _) fun _ => Run.always_pure hF _
  exact Site.always_performAll hR (fun source hsource => always_emit hshipped (h _ hsource)) b

/-- However the computation ends, it has filled only templates that were there and had what they
use, and if it fails, then with no error about a template, but with an integrity error at most. -/
structure FillsTemplates (g : Generator) {α : Type} (x : Run α) (s : Session) : Prop where
  /-- The templates were filled. -/
  filled : ∀ outcome s', x.run.run s = (outcome, s') → g.Filled s s'
  /-- The failure is about something else. -/
  failure : ∀ e s', x.Fails s e s' → ¬e.IsRendering ∧ e.IntegrityAtMost

theorem runCommon_fills (hm : g.model.Typed) (hshipped : g.renderer = .shipped)
    (s : Session) : g.FillsTemplates g.runCommon s := by
  have hR := g.seesRenderings_filled
  have hF := hR.follows
  have hsupplied : (commonScript g.resolver g.model).Every Step.Supplied :=
    commonScript_supplied hm
  constructor
  case filled =>
    have hbody : g.commonBody.Always g.Filled :=
      Run.always_bind hF (always_play hshipped hsupplied {}) fun _ => Run.always_pure hF _
    refine Run.always_bind hF ?_ (fun common => ?_) s
    · exact Run.always_inPhase hR (Run.always_tagging hbody _) _ _
    · refine Run.always_bind hF (Run.always_quiet hR fun _ => rfl) fun _ => ?_
      exact Run.always_bind hF (Run.always_quiet hR fun _ => rfl) fun _ => Run.always_pure hF _
  case failure =>
    intro e s' hfails
    suffices hatMost : e.IntegrityAtMost from ⟨hatMost.not_isRendering, hatMost⟩
    obtain ⟨u, -, ⟨c, u', s'', -, hreturns, -⟩ | ⟨e', u', s'', hbody, hfails', -⟩⟩ :=
      g.runCommon_cases s
    · exact absurd hfails hreturns.not_fails
    obtain ⟨rfl, -⟩ := hfails.unique hfails'
    refine Failure.IntegrityAtMost.tag ?_ _
    rcases Site.play_fails.1 (commonBody_fails.1 hbody) with hsteps | ⟨hresult, -⟩
    · exact Site.performAll_fails_of_supplied hshipped Bench.open_empty hsupplied hsteps
    · exact (tame_commonScript hm e' hresult).atMost

theorem runVariantOn_fills (hm : g.model.Typed) (hshipped : g.renderer = .shipped)
    (h : g.runCommon.Returns s c s₁) (v : Variant) (u : Session) :
    g.FillsTemplates (g.runVariantOn v c) u := by
  have hR := g.seesRenderings_filled
  have hF := hR.follows
  have hplan := typed_plan hm h
  have hsupplied : (variantScript g.resolver v g.settings.deployment c.registry c.plan).Every
      Step.Supplied := variantScript_supplied hplan.types
  constructor
  case filled =>
    have hbody : (g.variantBody v c).Always g.Filled :=
      Run.always_bind hF (Run.always_lift hF _) fun registry =>
        Run.always_bind hF (always_play hshipped hsupplied _) fun _ => Run.always_pure hF _
    refine Run.always_bind hF ?_ (fun result => ?_) u
    · exact Run.always_inPhase hR (Run.always_tagging hbody _) _ _
    · exact Run.always_bind hF (Run.always_quiet hR fun _ => rfl) fun _ => Run.always_pure hF _
  case failure =>
    intro e s' hfails
    suffices hatMost : e.IntegrityAtMost from ⟨hatMost.not_isRendering, hatMost⟩
    obtain ⟨u₁, -, -, ⟨r, u', s'', -, hreturns, -⟩ | ⟨e', u', s'', hbody, hfails', -⟩⟩ :=
      runVariantOn_cases g v c u
    · exact absurd hfails hreturns.not_fails
    obtain ⟨rfl, -⟩ := hfails.unique hfails'
    refine Failure.IntegrityAtMost.tag ?_ _
    rcases Site.play_fails.1 ((variantBody_fails (above_of_returns h)).1 hbody) with
      hsteps | ⟨hresult, -⟩
    · exact Site.performAll_fails_of_supplied hshipped ⟨rfl, rfl⟩ hsupplied hsteps
    · exact (tame_variantScript hplan (services_of_plan hm h) e' hresult).atMost

theorem runVariant_eq {common : Option CommonResult} {v : Variant}
    (h : common.or s.common = some c) :
    (g.runVariant v common).run.run s = (g.runVariantOn v c).run.run s := by
  have hget : (get : Run Session).Returns s s s := rfl
  rw [runVariant, Run.run_bind hget, h]

/-- **Templates have what they use.**  With a typed model and the shipped templates, the common
phase fills only templates that are there and have what they use, whether it returns or fails, and
so do the variant phases on top of a common result, given or the last one.  No failure of these
phases is about a template: it is an integrity error, or no error of the library. -/
theorem phases_fill_templates (hm : g.model.Typed) (hshipped : g.renderer = .shipped) :
    (∀ s, g.FillsTemplates g.runCommon s) ∧
      ∀ s c s₁, g.runCommon.Returns s c s₁ → ∀ v common (u : Session),
        common.or u.common = some c → g.FillsTemplates (g.runVariant v common) u := by
  refine ⟨runCommon_fills hm hshipped, fun s c s₁ h v common u hc => ?_⟩
  have hfills := runVariantOn_fills hm hshipped h v u
  have hsame := runVariant_eq (g := g) (v := v) hc
  refine ⟨fun outcome u' hrun => hfills.filled outcome u' (hsame ▸ hrun), fun e u' hfails => ?_⟩
  exact hfills.failure e u' (hsame.symm.trans hfails)

theorem phases_fill_templates_orders :
    orderService.model.Typed ∧ orderService.renderer = .shipped ∧
      ∃ c s, orderService.runCommon.Returns {} c s ∧
        c.artifacts.map (·.template) = ["request-bean", "complex-type-binding"] ∧
        orderService.FillsTemplates orderService.runCommon {} ∧
        ∀ v, orderService.FillsTemplates (orderService.runVariant v (some c)) s := by
  have hm : orderService.model.Typed := by decide
  have hshipped : orderService.renderer = .shipped := rfl
  obtain ⟨hcommon, hvariant⟩ := phases_fill_templates hm hshipped
  obtain ⟨c, s, h, hartifacts⟩ := @Run.returns_of_check _ orderService.runCommon {}
    (fun c => c.artifacts.map (·.template) == ["request-bean", "complex-type-binding"])
    (by decide +kernel)
  exact ⟨hm, hshipped, c, s, h, eq_of_beq hartifacts, hcommon {},
    fun v => hvariant _ c s h v _ _ rfl⟩

end Generator

end SoapStubs
