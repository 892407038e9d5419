import Mathlib.Data.Set.Function
import SoapStubs.Proofs.Failures

/-!
# Collisions of identifiers

Rules may move two packages onto one, so that different names get the same identifier.  Faults are
checked for this when they are resolved, and beans and types when they are declared.  Endpoints are
only recorded, and an abstract type is never declared, so that these may collide.

* `tame_commonScript`: that the common phase of a typed model has no result is an integrity error;
* `Site.performAll_fails`: its steps fail with an integrity error, or where a source cannot be
  rendered;
* `ServiceModel.Apart` says that no two names that are checked have one identifier;
* `Generator.runCommon_rejects_collisions` is the theorem, and `Generator.runCommon_overlooks_twins`
  shows a model whose endpoints and abstract types collide.
-/

namespace SoapStubs

/-! ### Integrity errors only -/

theorem Failure.IsIntegrity.tag {f : Failure} (h : f.IsIntegrity) (facts : List (String × Value)) :
    (f.tag facts).IsIntegrity := by
  obtain ⟨e, rfl, he⟩ := h
  exact ⟨e.tag facts, rfl, he⟩

/-- The computation fails with integrity errors only. -/
abbrev Tame {α : Type} (x : Except Failure α) : Prop := Blames Failure.IsIntegrity x

/-- **A typed model is at worst inconsistent**: that the common phase has no result is an integrity
error. -/
theorem tame_commonScript {r : Resolver} {m : ServiceModel} (hm : m.Typed) :
    Tame (commonScript r m).result :=
  fun f hf => ((mild_commonScript r m).failure f hf).2 hm

/-! ### Steps that fail -/

/-- Nothing was closed. -/
structure Bench.Open (b : Bench) : Prop where
  /-- The manifest is open. -/
  manifest : b.manifest.frozen = false
  /-- The registry is open. -/
  registry : b.registry.frozen = false

theorem Bench.open_empty : ({} : Bench).Open := ⟨rfl, rfl⟩

/-- Into an open registry every text can be written, but for the empty one and what is below. -/
theorem Registry.tame_record {r : Registry} (hopen : r.frozen = false) (key : String)
    (d : Descriptor) : Tame (r.record (.text key) d) := by
  intro f h
  have hkey : (Value.text key).asKey = .ok (.text key) := rfl
  rw [record, hopen, hkey] at h
  simp only [Bool.false_eq_true, if_false, bare, ok_bind] at h
  split at h
  · cases h
    exact ⟨_, rfl, rfl⟩
  · split at h
    · cases h
      exact ⟨_, rfl, rfl⟩
    · cases h

theorem Manifest.tame_add {m : Manifest} (hopen : m.frozen = false) (identifier : String)
    (origin : Option String) : Tame (m.add identifier origin) := by
  intro f h
  simp only [add, hopen, Bool.false_eq_true, if_false] at h
  split at h
  · cases h
  · split at h
    · cases h
    · cases h
      exact ⟨_, rfl, rfl⟩

namespace Site

variable {site : Site} {b b' : Bench} {s s' : Session} {step : Step} {steps : List Step}
  {e : Failure}

/-- A source of the steps cannot be rendered when its turn comes. -/
def StopsAt (site : Site) (b : Bench) (steps : List Step) (s : Session) (e : Failure) : Prop :=
  ∃ front source back b₁ s₁ s₂, steps = front ++ .emit source :: back ∧
    (site.performAll b front).Returns s b₁ s₁ ∧ (site.emit source).Fails s₁ e s₂

theorem open_perform (hb : b.Open) (h : (site.perform b step).Returns s b' s') : b'.Open := by
  cases takes_of_perform h with
  | declare hadd => exact ⟨(Manifest.add_inv hadd).2.1, hb.registry⟩
  | record _ hrecord =>
    obtain ⟨-, -, -, -, rfl⟩ := Registry.record_inv hrecord
    exact ⟨hb.manifest,
      (congrArg Layer.frozen (Registry.own_withOwn b.registry _)).trans hb.registry⟩
  | emit => exact ⟨hb.manifest, hb.registry⟩
  | note => exact hb

/-- A step fails with an integrity error, or as rendering its source does. -/
theorem perform_fails (hb : b.Open) (h : (site.perform b step).Fails s e s') :
    e.IsIntegrity ∨ ∃ source, step = .emit source ∧ (site.emit source).Fails s e s' := by
  cases step with
  | declare identifier origin =>
    rcases Run.fails_bind.1 h with h | ⟨p, s₁, -, h⟩
    · exact .inl (Manifest.tame_add hb.manifest identifier (some origin) e (Run.fails_lift.1 h).1)
    · exact absurd h Run.not_fails_pure
  | record key d =>
    rcases Run.fails_bind.1 h with h | ⟨registry, s₁, -, h⟩
    · exact .inl (Registry.tame_record hb.registry key d e
        (Registry.recordLogged_error (Run.fails_logged h)))
    · exact absurd h Run.not_fails_pure
  | emit source =>
    rcases Run.fails_bind.1 h with h | ⟨artifact, s₁, -, h⟩
    · exact .inr ⟨source, rfl, h⟩
    · exact absurd h Run.not_fails_pure
  | note event =>
    rcases Run.fails_bind.1 h with h | ⟨-, s₁, -, h⟩
    · exact absurd h Run.not_fails_modify
    · exact absurd h Run.not_fails_pure

theorem open_performAll (hb : b.Open) (h : (site.performAll b steps).Returns s b' s') :
    b'.Open := by
  induction steps generalizing b s with
  | nil => exact (Run.returns_pure.1 h).1 ▸ hb
  | cons step steps ih =>
    obtain ⟨b₁, s₁, hstep, hrest⟩ := Run.returns_bind.1 h
    exact ih (open_perform hb hstep) hrest

/-- Steps fail at one of them. -/
theorem exists_step_of_fails (h : (site.performAll b steps).Fails s e s') :
    ∃ front step back b₁ s₁ s₂, steps = front ++ step :: back ∧
      (site.performAll b front).Returns s b₁ s₁ ∧ (site.perform b₁ step).Fails s₁ e s₂ := by
  induction steps generalizing b s with
  | nil => exact absurd h Run.not_fails_pure
  | cons step steps ih =>
    rcases Run.fails_bind.1 h with hstep | ⟨b₁, s₁, hstep, hrest⟩
    · exact ⟨[], step, steps, b, s, s', rfl, rfl, hstep⟩
    · obtain ⟨front, step', back, b₂, s₂, s₃, rfl, hfront, he⟩ := ih hrest
      exact ⟨step :: front, step', back, b₂, s₂, s₃, rfl,
        Run.returns_bind.2 ⟨b₁, s₁, hstep, hfront⟩, he⟩

/-- Steps fail with an integrity error, or at a source that cannot be rendered. -/
theorem performAll_fails (hb : b.Open) (h : (site.performAll b steps).Fails s e s') :
    e.IsIntegrity ∨ site.StopsAt b steps s e := by
  obtain ⟨front, step, back, b₁, s₁, s₂, rfl, hfront, hstep⟩ := exists_step_of_fails h
  rcases perform_fails (open_performAll hb hfront) hstep with he | ⟨source, rfl, he⟩
  · exact .inl he
  · exact .inr ⟨front, source, back, b₁, s₁, s₂, rfl, hfront, he⟩

end Site

/-! ### Names apart -/

theorem Fault.implicit_carrier (f : Fault) : f.carrier.implicit = f.isImplicit := by
  rw [carrier, isImplicit]
  cases f.explicitBean <;> rfl

/-- An implicit fault has an entry that is implicit and has the same bean. -/
theorem exists_implicit_entry {fs : List Fault} {faults : List ResolvedFault}
    (htyped : ∀ f ∈ fs, f.Typed) (h : resolveFaults r fs = .ok faults) {f : Fault} (hf : f ∈ fs)
    (himplicit : f.isImplicit = true) :
    ∃ e ∈ faults.filter (·.isImplicit), e.identifier = r.resolveName f.name ∧
      e.fault.implicitBeanName.nameText = f.implicitBeanName.nameText := by
  obtain ⟨hable, hres⟩ := resolution_of_ok r htyped h
  obtain ⟨e, he, hname⟩ := hres.complete f hf
  obtain ⟨d, hd, rfl⟩ := hres.chosen e he
  have hmem : d ∈ fs := (Fault.mem_declaredAs.1 (FirstLeast.mem hd)).1
  have hcarrier : d.carrier = f.carrier := hable.agreed d hmem f hf hname
  have hdimplicit : d.isImplicit = true := by
    rw [← Fault.implicit_carrier, hcarrier, Fault.implicit_carrier, himplicit]
  refine ⟨d.entry r, List.mem_filter.2 ⟨he, hdimplicit⟩, congrArg r.resolveName hname, ?_⟩
  show d.implicitBeanName.nameText = _
  rw [← Fault.bean_of_implicit (htyped d hmem) (Option.isNone_iff_eq_none.1 hdimplicit),
    ← Fault.bean_of_implicit (htyped f hf) (Option.isNone_iff_eq_none.1 himplicit), hcarrier]

namespace ServiceModel

/-- The names of the beans that are generated for messages and for faults. -/
def beanNames (m : ServiceModel) : List String :=
  m.beanMessages.map (·.beanName.nameText) ++
    (m.faults.filter Fault.isImplicit).map (·.implicitBeanName.nameText)

/-- The names of the types that are not abstract. -/
def concreteTypeNames (m : ServiceModel) : List String :=
  (m.types.filter fun t => !t.isAbstract).map (·.qualifiedName.nameText)

/-- Different names have different identifiers: those of faults, and those of beans and of types
that are not abstract, all taken together. -/
structure Apart (r : Resolver) (m : ServiceModel) : Prop where
  faults : Set.InjOn r.resolveName { n | n ∈ m.faults.map Fault.name }
  types : Set.InjOn r.resolveName { n | n ∈ m.beanNames ++ m.concreteTypeNames }

/-- Every bean and every type that is not abstract is declared. -/
theorem mem_declared {r : Resolver} {m : ServiceModel} {faults : List ResolvedFault} (hm : m.Typed)
    (hf : resolveFaults r m.faults = .ok faults) {n : String}
    (hn : n ∈ m.beanNames ++ m.concreteTypeNames) : ∃ d ∈ m.declared r faults, d.2 = n := by
  simp only [beanNames, concreteTypeNames, List.mem_append, List.mem_map] at hn
  rcases hn with (⟨b, hb, rfl⟩ | ⟨f, hmem, rfl⟩) | ⟨t, ht, rfl⟩
  · exact ⟨b.declaration r, List.mem_append_left _ (List.mem_map_of_mem hb), rfl⟩
  · obtain ⟨hfault, himplicit⟩ := List.mem_filter.1 hmem
    obtain ⟨e, he, -, hbean⟩ := exists_implicit_entry hm.faults hf hfault himplicit
    exact ⟨e.declaration,
      List.mem_append_right _ (List.mem_append_left _ (List.mem_map_of_mem he)), hbean⟩
  · exact ⟨t.declaration r,
      List.mem_append_right _ (List.mem_append_right _ (List.mem_map_of_mem ht)), rfl⟩

end ServiceModel

namespace Generator

variable {g : Generator} {s s' : Session} {c : CommonResult}

/-- If the common phase of a typed model returns, then names are apart. -/
theorem apart_of_returns (hm : g.model.Typed) {plan : CommonPlan} {b : Bench}
    (h : (g.site.play {} (commonScript g.resolver g.model)).Returns s (plan, b) s') :
    g.model.Apart g.resolver := by
  obtain ⟨hfaults, hadded, hresolves⟩ := Site.play_declares hm h
  constructor
  case faults =>
    obtain ⟨hable, -⟩ := resolution_of_ok g.resolver hm.faults hfaults
    intro n hn n' hn' hid
    obtain ⟨f, hf, rfl⟩ := List.mem_map.1 hn
    obtain ⟨f', hf', rfl⟩ := List.mem_map.1 hn'
    by_contra hne
    exact hable.apart f hf f' hf' hne hid
  case types =>
    intro n hn n' hn' hid
    obtain ⟨d, hd, rfl⟩ := ServiceModel.mem_declared hm hfaults hn
    obtain ⟨d', hd', rfl⟩ := ServiceModel.mem_declared hm hfaults hn'
    obtain ⟨hd₁, hne⟩ := hresolves d hd
    obtain ⟨hd₁', hne'⟩ := hresolves d' hd'
    exact Manifest.origin_eq hadded hd hd' (by rw [hd₁, hd₁', hid]) hne hne'

/-- Endpoints with one identifier have the same descriptors, if there was no conflict. -/
theorem endpoint_descriptors_eq (hm : g.model.Typed) (h : g.runCommon.Returns s c s')
    (hc : c.registry.conflicts = []) {e e' : Endpoint} (he : e ∈ g.model.endpoints)
    (he' : e' ∈ g.model.endpoints) (hid : e.identifier g.resolver = e'.identifier g.resolver) :
    e.descriptor = e'.descriptor ∧ e.binding.descriptor = e'.binding.descriptor := by
  obtain ⟨registry, hwrites, hregistry, hresult⟩ := runCommon_inv h
  obtain ⟨hall, hfaults, -⟩ := commonScript_ends hm (Script.ends_writes hresult)
  rw [hall] at hwrites
  have hconflicts : registry.conflicts = [] := by
    rw [hregistry] at hc
    cases registry <;> exact hc
  have hreads : ∀ e ∈ g.model.endpoints, ∀ w ∈ e.writes g.resolver, registry.Reads w.1 w.2 := by
    intro e he w hw
    have hmem : w ∈ g.model.writes g.resolver c.plan.faults :=
      List.mem_append_left _ (List.mem_flatMap.2 ⟨e, he, hw⟩)
    exact Registry.reads_of_conflicts_nil hwrites hconflicts (g.model.simple_writes hm hfaults) hmem
  have hservice : ∀ e ∈ g.model.endpoints, registry.Reads (e.identifier g.resolver) e.descriptor :=
    fun e he => hreads e he (e.identifier g.resolver, e.descriptor) (by simp [Endpoint.writes])
  have hbinding : ∀ e ∈ g.model.endpoints,
      registry.Reads (e.identifier g.resolver) e.binding.descriptor :=
    fun e he => hreads e he (e.identifier g.resolver, e.binding.descriptor)
      (by simp [Endpoint.writes])
  have hservice' := hservice e' he'
  have hbinding' := hbinding e' he'
  rw [← hid] at hservice' hbinding'
  exact ⟨(hservice e he).eq hservice' rfl, (hbinding e he).eq hbinding' rfl⟩

/-- The common phase fails: with an integrity error, or with the failure of rendering a source of
its script when the source's turn comes. -/
def RejectsCommon (g : Generator) (s : Session) : Prop :=
  ∃ e s', g.runCommon.Fails s e s' ∧
    (e.IsIntegrity ∨ ∃ s₁ e₁, s₁.files = s.files ∧ e = e₁.tag g.commonFacts ∧
      g.site.StopsAt {} (commonScript g.resolver g.model).steps s₁ e₁)

/-- If the common phase of a typed model fails, then in one of the two ways. -/
theorem rejectsCommon_of_fails (hm : g.model.Typed) {s₁ : Session} (hfiles : s₁.files = s.files)
    {e : Failure} {s₂ : Session} (hbody : g.commonBody.Fails s₁ e s₂)
    (h : g.runCommon.Fails s (e.tag g.commonFacts) s') : g.RejectsCommon s := by
  refine ⟨_, s', h, ?_⟩
  rcases Site.play_fails.1 (commonBody_fails.1 hbody) with hsteps | ⟨hresult, -⟩
  · rcases Site.performAll_fails Bench.open_empty hsteps with he | hstops
    · exact .inl (he.tag _)
    · exact .inr ⟨s₁, e, hfiles, rfl, hstops⟩
  · exact .inl ((tame_commonScript hm e hresult).tag _)

/-- **Which collisions are rejected.**  If two names of faults, or two names of beans and of types
that are not abstract, have one identifier, then the common phase of a typed model fails, and that
as an integrity error unless a source cannot be rendered before.  If the common phase returns, then
all these names are apart.

Endpoints and abstract types are not among them.  Of endpoints with one identifier it can only be
said that they have the same descriptors, if there was no conflict. -/
theorem runCommon_rejects_collisions (hm : g.model.Typed) (s : Session) :
    (¬g.model.Apart g.resolver → g.RejectsCommon s) ∧
      ∀ c s', g.runCommon.Returns s c s' → g.model.Apart g.resolver ∧
        (c.registry.conflicts = [] → ∀ e ∈ g.model.endpoints, ∀ e' ∈ g.model.endpoints,
          e.identifier g.resolver = e'.identifier g.resolver →
            e.descriptor = e'.descriptor ∧ e.binding.descriptor = e'.binding.descriptor) := by
  obtain ⟨s₁, hfiles, hcases⟩ := g.runCommon_cases s
  rcases hcases with ⟨c, s₂, s', hbody, hreturns, -⟩ | ⟨e, s₂, s', hbody, hfails, -⟩
  · obtain ⟨plan, b, hplay, rfl⟩ := commonBody_returns.1 hbody
    have hapart := apart_of_returns hm hplay
    exact ⟨fun h => absurd hapart h, fun c s'' h => ⟨hapart, fun hc e he e' he' hid =>
      endpoint_descriptors_eq hm h hc he he' hid⟩⟩
  · refine ⟨fun _ => rejectsCommon_of_fails hm hfiles hbody hfails, fun c s'' h => ?_⟩
    exact absurd hfails h.not_fails

/-- Rules that move two packages onto one. -/
def twinRules : List Rule := [⟨"north", "shop"⟩, ⟨"south", "shop"⟩]

/-- A service with two types of one identifier. -/
def twinItems : Generator where
  model := {
    schemaGroups := [(.text "urn:shop", {
      types := [{ qualifiedName := .text "north.Item", space := .text "urn:shop" },
        { qualifiedName := .text "south.Item", space := .text "urn:shop" }] })] }
  settings := { runId := "run", outputDir := ⟨"", ["out"]⟩ }
  resolver := ⟨Resolver.conversionsOf twinRules⟩
  renderer := .shipped
  compiler := ⟨fun _ => Run.fail (.of .compileBeforeCommon)⟩

theorem runCommon_rejects_collisions_twins :
    twinItems.model.Typed ∧ ¬twinItems.model.Apart twinItems.resolver ∧
      twinItems.RejectsCommon {} := by
  have hm : twinItems.model.Typed := by decide
  have hsame : twinItems.resolver.resolveName "north.Item" =
      twinItems.resolver.resolveName "south.Item" := by decide +kernel
  have hapart : ¬twinItems.model.Apart twinItems.resolver := fun h =>
    absurd (h.types (by decide : "north.Item" ∈ _) (by decide : "south.Item" ∈ _) hsame) (by decide)
  exact ⟨hm, hapart, (runCommon_rejects_collisions hm {}).1 hapart⟩

/-- A service with two endpoints of one identifier, and two abstract types of one identifier. -/
def twinShops : Generator :=
  { twinItems with
    model := {
      endpointGroups := [(.text "urn:shop", [
        { qualifiedName := .text "north.Shop", targetNamespace := .text "urn:shop" },
        { qualifiedName := .text "south.Shop", targetNamespace := .text "urn:shop" }])]
      schemaGroups := [(.text "urn:shop", {
        types := [
          { qualifiedName := .text "north.Item", space := .text "urn:shop", isAbstract := true },
          { qualifiedName := .text "south.Item", space := .text "urn:shop"
            isAbstract := true }] })] } }

/-- **Endpoints and abstract types may collide**: the common phase returns. -/
theorem runCommon_overlooks_twins :
    Resolver.ofRules twinRules = .ok twinShops.resolver ∧ twinShops.model.Typed ∧
      ¬Set.InjOn twinShops.resolver.resolveName
        { n | n ∈ twinShops.model.endpoints.map (·.qualifiedName.nameText) } ∧
      ¬Set.InjOn twinShops.resolver.resolveName
        { n | n ∈ twinShops.model.types.map (·.qualifiedName.nameText) } ∧
      ∃ c s', twinShops.runCommon.Returns {} c s' := by
  refine ⟨by rfl, by decide, ?_, ?_, ?_⟩
  · intro h
    have hsame : twinShops.resolver.resolveName "north.Shop" =
      twinShops.resolver.resolveName "south.Shop" := by decide +kernel
    exact absurd (h (by decide : "north.Shop" ∈ _) (by decide : "south.Shop" ∈ _) hsame) (by decide)
  · intro h
    have hsame : twinShops.resolver.resolveName "north.Item" =
      twinShops.resolver.resolveName "south.Item" := by decide +kernel
    exact absurd (h (by decide : "north.Item" ∈ _) (by decide : "south.Item" ∈ _) hsame) (by decide)
  · obtain ⟨c, s', h, -⟩ := @Run.returns_of_check _ twinShops.runCommon {} (fun _ => true)
      (by decide +kernel)
    exact ⟨c, s', h⟩

end Generator

end SoapStubs
