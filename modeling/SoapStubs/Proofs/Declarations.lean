import SoapStubs.Proofs.CommonPhase
import SoapStubs.Proofs.Manifest
import SoapStubs.Proofs.Phases

/-!
# What the common phase declares

The generated types that the common phase declares for a typed model, each with the name it comes
from: the beans of messages, the beans of implicit faults, and the types that are not abstract.

* `Manifest.add_inv` says what a declaration does, `Manifest.addAll_inv` what many do: every
  identifier keeps the one name it was declared with;
* `ServiceModel.declared` lists what a model declares;
* `commonScript_declares`: a common phase that has a result has declared exactly this;
* `Site.performAll_manifest`: taking steps declares what they say, so that a phase that was played
  has put it into the manifest (`Site.play_declares`).
-/

namespace SoapStubs

/-! ### Manifests -/

namespace Manifest

/-- An identifier with the name it comes from. -/
abbrev Declaration := String × String

/-- Declares identifiers one after another. -/
def addAll (m : Manifest) (ds : List Declaration) : Except Failure Manifest :=
  ds.foldlM (fun m d => (m.add d.1 (some d.2)).map Prod.fst) m

variable {m m' : Manifest} {identifier : String} {origin : Option String} {fresh : Bool}
  {ds : List Declaration}

/-- **What a declaration does**: the identifier comes from the name, as before or from now on, and
no other identifier is touched. -/
theorem add_inv (h : m.add identifier origin = .ok (m', fresh)) :
    m.frozen = false ∧ m'.frozen = false ∧
      m'.origins.get? identifier = some (originOf identifier origin) ∧
      ∀ i o, m.origins.get? i = some o → m'.origins.get? i = some o := by
  obtain ⟨hopen, hsame, -, rfl⟩ := add_eq_ok_iff.1 h
  refine ⟨hopen, hopen, by rw [Ordered.get?_put, if_pos rfl], fun i o hi => ?_⟩
  rw [Ordered.get?_put]
  split
  · rename_i hid
    rw [hsame o (hid ▸ hi)]
  · exact hi

theorem addAll_append (m : Manifest) (front back : List Declaration) :
    m.addAll (front ++ back) = m.addAll front >>= fun m => m.addAll back := by
  rw [addAll, List.foldlM_append]
  rfl

theorem addAll_cons_inv {d : Declaration} (h : m.addAll (d :: ds) = .ok m') :
    ∃ m₁ fresh, m.add d.1 (some d.2) = .ok (m₁, fresh) ∧ m₁.addAll ds = .ok m' := by
  obtain ⟨_, hfirst, h⟩ := bind_eq_ok.1 h
  obtain ⟨⟨m₁, fresh⟩, hadd, rfl⟩ := map_eq_ok.1 hfirst
  exact ⟨m₁, fresh, hadd, h⟩

/-- Declarations put their origins into a manifest. -/
theorem origins_addAll (h : m.addAll ds = .ok m') :
    m'.origins = m.origins.putAll (ds.map fun d => (d.1, originOf d.1 (some d.2))) := by
  induction ds generalizing m with
  | nil =>
    cases h
    rfl
  | cons d ds ih =>
    obtain ⟨m₁, fresh, hadd, hrest⟩ := addAll_cons_inv h
    rw [ih hrest, (add_eq_ok_iff.1 hadd).2.2.2]
    rfl

/-- Identifiers come from the names they were declared with. -/
theorem addAll_inv (h : m.addAll ds = .ok m') :
    (∀ i o, m.origins.get? i = some o → m'.origins.get? i = some o) ∧
      ∀ d ∈ ds, m'.origins.get? d.1 = some (originOf d.1 (some d.2)) := by
  induction ds generalizing m with
  | nil =>
    cases h
    exact ⟨fun _ _ hi => hi, nofun⟩
  | cons d ds ih =>
    obtain ⟨m₁, fresh, hadd, hrest⟩ := addAll_cons_inv h
    obtain ⟨-, -, hd, hkeep⟩ := add_inv hadd
    obtain ⟨hkeep', hds⟩ := ih hrest
    exact ⟨fun i o hi => hkeep' i o (hkeep i o hi),
      List.forall_mem_cons.2 ⟨hkeep' _ _ hd, hds⟩⟩

/-- Declarations of one identifier come from one name. -/
theorem origin_eq (h : m.addAll ds = .ok m') {d d' : Declaration} (hd : d ∈ ds) (hd' : d' ∈ ds)
    (hi : d.1 = d'.1) (hne : d.2 ≠ "") (hne' : d'.2 ≠ "") : d.2 = d'.2 := by
  have horigin : ∀ d : Declaration, d.2 ≠ "" → originOf d.1 (some d.2) = d.2 := by
    intro d hd
    unfold originOf
    split
    · rename_i heq
      cases heq
    · rename_i heq
      exact absurd (Option.some.inj heq) hd
    · rename_i heq
      exact (Option.some.inj heq).symm
  have hget := (addAll_inv h).2 d hd
  rw [hi, (addAll_inv h).2 d' hd', horigin d' hne', ← hi, horigin d hne] at hget
  exact (Option.some.inj hget).symm

end Manifest

/-! ### Taking steps -/

/-- The generated type a step declares. -/
def Step.declaration? : Step → Option Manifest.Declaration
  | .declare identifier origin => some (identifier, origin)
  | _ => none

namespace Site

variable {site : Site} {b b' : Bench} {s s' : Session} {steps : List Step}

theorem perform_manifest {step : Step} (h : (site.perform b step).Returns s b' s') :
    b.manifest.addAll step.declaration?.toList = .ok b'.manifest := by
  cases takes_of_perform h with
  | declare hadd =>
    simp [Manifest.addAll, Step.declaration?, hadd, Except.map]
  | record | emit | note => rfl

/-- Steps declare their types one after another. -/
theorem performAll_manifest (h : (site.performAll b steps).Returns s b' s') :
    b.manifest.addAll (steps.filterMap Step.declaration?) = .ok b'.manifest := by
  induction steps generalizing b s with
  | nil =>
    rw [(Run.returns_pure.1 h).1]
    rfl
  | cons step steps ih =>
    obtain ⟨b₁, s₁, hstep, h⟩ := Run.returns_bind.1 h
    have hsplit : (step :: steps).filterMap Step.declaration? =
        step.declaration?.toList ++ steps.filterMap Step.declaration? := by
      cases hd : step.declaration? <;> simp [hd]
    rw [hsplit, Manifest.addAll_append, perform_manifest hstep]
    exact ih h

end Site

/-! ### What there is to declare -/

/-- The identifier of the type's class. -/
def TypeDefinition.identifier (r : Resolver) (t : TypeDefinition) : String :=
  r.resolveName t.qualifiedName.nameText

/-- The messages of a model that are carried by beans, in the order of the model. -/
def ServiceModel.beanMessages (m : ServiceModel) : List BeanMessage :=
  m.endpoints.flatMap fun e => e.operations.flatMap Operation.beanMessages

def BeanMessage.declaration (r : Resolver) (m : BeanMessage) : Manifest.Declaration :=
  (m.identifier r, m.beanName.nameText)

def ResolvedFault.declaration (f : ResolvedFault) : Manifest.Declaration :=
  (f.carrier, f.fault.implicitBeanName.nameText)

def TypeDefinition.declaration (r : Resolver) (t : TypeDefinition) : Manifest.Declaration :=
  (t.identifier r, t.qualifiedName.nameText)

/-- What is declared for a model whose faults are resolved: the beans of its messages, then those of
its implicit faults, then its types that are not abstract. -/
def ServiceModel.declared (r : Resolver) (m : ServiceModel) (faults : List ResolvedFault) :
    List Manifest.Declaration :=
  m.beanMessages.map (BeanMessage.declaration r) ++
    (((faults.filter (·.isImplicit)).map ResolvedFault.declaration) ++
      (m.types.filter fun t => !t.isAbstract).map (TypeDefinition.declaration r))

/-- The declaration gives a name that is there its identifier. -/
def Manifest.Declaration.Resolves (r : Resolver) (d : Manifest.Declaration) : Prop :=
  d.1 = r.resolveName d.2 ∧ d.2 ≠ ""

section

open Script

variable {r : Resolver} {key : String} {out : List Manifest.Declaration}

theorem beanScript_declares {m : BeanMessage} {bean : String} (hm : m.Typed)
    (h : (beanScript r key m).Yields Step.declaration? out bean) :
    out = [m.declaration r] ∧ (m.declaration r).Resolves r := by
  rw [beanScript] at h
  split at h
  · cases h.result
  rename_i htruthy
  have hname : m.beanName.nameText ≠ "" := by
    rw [hm.beanName.truthy] at htruthy
    simpa using htruthy
  have htext : m.beanName.IsText := by
    rw [hm.beanName.eq_text hname]
    exact Value.isText_text _
  simp only [declare, record, emit, yields_lift_bind, yields_take_bind, yields_pure,
    Step.declaration?] at h
  obtain ⟨id, hid, back, ⟨back', ⟨properties, -, back'', ⟨rfl, -⟩, rfl⟩, rfl⟩, rfl⟩ := h
  have hq := hm.beanName.qualifiedName_eq
  obtain ⟨hid, -⟩ := Resolver.resolve_inv (by rw [hq]; exact hm.beanName) hid
  rw [hq] at hid
  refine ⟨?_, rfl, hname⟩
  rw [hid, htext.plain_eq]
  rfl

theorem messagesScript_declares {ms : List Message} {found outcome : MessageOutcome}
    (hms : ∀ m ∈ ms, m.Typed)
    (h : (messagesScript r key found ms).Yields Step.declaration? out outcome) :
    out = (ms.filterMap Message.bean?).map (BeanMessage.declaration r) ∧
      ∀ d ∈ out, d.Resolves r := by
  induction ms generalizing found out with
  | nil =>
    obtain ⟨rfl, -⟩ := yields_pure.1 h
    exact ⟨rfl, nofun⟩
  | cons m ms ih =>
    have hrest : ∀ m ∈ ms, m.Typed := fun m hm => hms m (List.mem_cons_of_mem _ hm)
    cases m with
    | fault f =>
      simp only [messagesScript, yields_lift_bind] at h
      obtain ⟨id, -, h⟩ := h
      exact (ih hrest h :)
    | bean m =>
      obtain ⟨bean, front, back, hbean, h₁, rfl⟩ := yields_bind.1 h
      obtain ⟨rfl, hd⟩ := beanScript_declares (hms _ List.mem_cons_self) hbean
      obtain ⟨hback, hds⟩ := ih hrest h₁
      exact ⟨by rw [hback]; rfl, List.forall_mem_cons.2 ⟨hd, hds⟩⟩

theorem parametersScript_declares {ps : List Parameter} {i : Nat} {u : Unit}
    (h : (parametersScript key i ps).Yields Step.declaration? out u) : out = [] := by
  induction ps generalizing i out with
  | nil => exact (yields_pure.1 h).1
  | cons p ps ih =>
    simp only [parametersScript, record, yields_take_bind] at h
    obtain ⟨back, h, rfl⟩ := h
    exact ih h

theorem operationScript_declares {endpoint : String} {o : Operation} {plan : OperationPlan}
    (ho : o.Typed) (h : (operationScript r endpoint o).Yields Step.declaration? out plan) :
    out = o.beanMessages.map (BeanMessage.declaration r) ∧ ∀ d ∈ out, d.Resolves r := by
  obtain ⟨found, front, back, hmessages, h₁, rfl⟩ := yields_bind.1 h
  have hfront := messagesScript_declares ho.messages hmessages
  have hend : ∀ {out plan'}, (do
      parametersScript (endpoint ++ "." ++ o.name.plain) 0 o.parameters
      pure plan' : Script OperationPlan).Yields Step.declaration? out plan → out = [] := by
    intro out plan' h
    obtain ⟨⟨⟩, front, back, hparameters, hpure, rfl⟩ := yields_bind.1 h
    rw [parametersScript_declares hparameters, (yields_pure.1 hpure).1, List.append_nil]
  have hback : back = [] := by
    simp only [record, yields_take_bind] at h₁
    obtain ⟨back, ⟨back', ⟨back'', h₂, rfl⟩, rfl⟩, rfl⟩ := h₁
    split at h₂
    · simp only [yields_take_bind] at h₂
      obtain ⟨back, h₃, rfl⟩ := h₂
      rw [hend h₃]
    · rw [hend h₂]
  rw [hback, List.append_nil]
  exact hfront

theorem endpointScript_declares {e : Endpoint} {plan : EndpointPlan} (he : e.Typed)
    (h : (endpointScript r e).Yields Step.declaration? out plan) :
    out = e.operations.flatMap (fun o => o.beanMessages.map (BeanMessage.declaration r)) ∧
      ∀ d ∈ out, d.Resolves r := by
  simp only [endpointScript, record, yields_lift_bind, yields_take_bind] at h
  obtain ⟨id, -, back, ⟨back', h, rfl⟩, rfl⟩ := h
  obtain ⟨plans, front, back, hoperations, hpure, rfl⟩ := yields_bind.1 h
  obtain ⟨rfl, -⟩ := yields_pure.1 hpure
  rw [List.append_nil]
  exact yields_each_forall hoperations fun o ho out plan h =>
    operationScript_declares (he.operations o ho) h

/-- Resolved faults are entries of declarations. -/
theorem exists_entry_of_resolved {fs : List Fault} {faults : List ResolvedFault}
    (htyped : ∀ f ∈ fs, f.Typed) (h : resolveFaults r fs = .ok faults) :
    ∀ f ∈ faults, ∃ d ∈ fs, f = d.entry r := by
  obtain ⟨-, hres⟩ := resolution_of_ok r htyped h
  intro f hf
  obtain ⟨d, hd, rfl⟩ := hres.chosen f hf
  exact ⟨d, (Fault.mem_declaredAs.1 (FirstLeast.mem hd)).1, rfl⟩

/-- The bean of an implicit fault that is resolved has a name and its identifier. -/
theorem resolvedFault_resolves {fs : List Fault} {faults : List ResolvedFault}
    (htyped : ∀ f ∈ fs, f.Typed) (h : resolveFaults r fs = .ok faults) :
    ∀ f ∈ faults, f.isImplicit = true → f.declaration.Resolves r ∧ f.fault ∈ fs := by
  obtain ⟨hable, -⟩ := resolution_of_ok r htyped h
  intro f hf himplicit
  obtain ⟨d, hmem, rfl⟩ := exists_entry_of_resolved htyped h f hf
  have hbean := Fault.bean_of_implicit (htyped d hmem) (Option.isNone_iff_eq_none.1 himplicit)
  have hcarried := hable.carried d hmem
  rw [hbean] at hcarried
  refine ⟨⟨?_, hcarried⟩, hmem⟩
  show r.resolveName d.carrier.bean.nameText = _
  rw [hbean]
  rfl

theorem carrierScript_declares {f : ResolvedFault} {u : Unit}
    (hname : f.fault.implicitBeanName.IsText)
    (h : (carrierScript r f).Yields Step.declaration? out u) : out = [f.declaration] := by
  simp only [carrierScript, declare, emit, yields_take_bind, yields_lift_bind, yields_take] at h
  obtain ⟨back, ⟨properties, -, rfl⟩, rfl⟩ := h
  rw [hname.plain_eq]
  rfl

theorem faultScript_declares {f : ResolvedFault} {u : Unit}
    (hname : f.isImplicit = true → f.fault.implicitBeanName.IsText)
    (h : (faultScript r f).Yields Step.declaration? out u) :
    out = if f.isImplicit then [f.declaration] else [] := by
  rw [faultScript] at h
  split at h
  · rename_i himplicit
    obtain ⟨⟨⟩, front, back, hcarrier, hrecord, rfl⟩ := yields_bind.1 h
    rw [carrierScript_declares (hname himplicit) hcarrier, yields_take.1 hrecord, if_pos himplicit]
    rfl
  · rename_i himplicit
    rw [if_neg himplicit]
    exact yields_take.1 h

theorem typeScript_declares {m : ServiceModel} {t : TypeDefinition} {plan : TypePlan}
    (ht : t.Typed) (h : (typeScript r m t).Yields Step.declaration? out plan) :
    out = (if !t.isAbstract then [t.declaration r] else []) ∧ (t.declaration r).Resolves r := by
  simp only [typeScript, yields_lift_bind] at h
  obtain ⟨id, hid, h⟩ := h
  obtain ⟨hid, hname⟩ := Resolver.resolve_inv ht.qualifiedName hid
  have htext : t.qualifiedName.IsText := by
    rw [ht.qualifiedName.eq_text hname]
    exact Value.isText_text _
  refine ⟨?_, rfl, hname⟩
  split at h
  · rename_i hconcrete
    simp only [declare, emit, yields_take_bind, yields_lift_bind, yields_pure] at h
    obtain ⟨back, ⟨bindings, -, back', ⟨rfl, -⟩, rfl⟩, rfl⟩ := h
    rw [if_pos hconcrete, htext.plain_eq, hid]
    rfl
  · rename_i hconcrete
    simp only [emit, yields_take_bind, yields_lift_bind, yields_pure] at h
    obtain ⟨bindings, -, back, ⟨rfl, -⟩, rfl⟩ := h
    rw [if_neg hconcrete]
    rfl

theorem rootScript_declares {e : RootElement} {u : Unit}
    (h : (rootScript r e).Yields Step.declaration? out u) : out = [] := by
  simp only [rootScript, yields_lift_bind] at h
  obtain ⟨id, -, h⟩ := h
  exact yields_take.1 h

theorem flatMap_ite {α β : Type} (l : List α) (c : α → Bool) (f : α → β) :
    (l.flatMap fun a => if c a then [f a] else []) = (l.filter c).map f := by
  induction l with
  | nil => rfl
  | cons a l ih =>
    rw [List.flatMap_cons, ih]
    cases hc : c a <;> simp [hc]

/-- **What the common phase declares.**  A common phase that has a result declared the generated
types of the model, each with the name that it resolves. -/
theorem commonScript_declares {m : ServiceModel} {plan : CommonPlan} (hm : m.Typed)
    (h : (commonScript r m).Yields Step.declaration? out plan) :
    resolveFaults r m.faults = .ok plan.faults ∧ out = m.declared r plan.faults ∧
      ∀ d ∈ out, d.Resolves r := by
  obtain ⟨endpoints, front₁, back₁, hendpoints, h₁, rfl⟩ := yields_bind.1 h
  obtain ⟨faults, front₂, back₂, hfaults, h₂, rfl⟩ := yields_bind.1 h₁
  obtain ⟨units, front₃, back₃, hunits, h₃, rfl⟩ := yields_bind.1 h₂
  obtain ⟨types, front₄, back₄, htypes, h₄, rfl⟩ := yields_bind.1 h₃
  obtain ⟨units', front₅, back₅, hroots, h₅, rfl⟩ := yields_bind.1 h₄
  obtain ⟨rfl, rfl⟩ := yields_pure.1 h₅
  obtain ⟨rfl, hlogged⟩ := (yields_logged fun _ => rfl).1 hfaults
  have hresolved := resolveFaultsLogged_ok hlogged
  have hcarriers := resolvedFault_resolves hm.faults hresolved
  obtain ⟨rfl, hbeans⟩ := yields_each_forall hendpoints fun e he out plan h =>
    endpointScript_declares (hm.endpoints e he) h
  obtain ⟨rfl, hfaultBeans⟩ := yields_each_forall hunits
    fun f hf out u h => by
      have hname : f.isImplicit = true → f.fault.implicitBeanName.IsText := fun himplicit => by
        obtain ⟨⟨-, hne⟩, hmem⟩ := hcarriers f hf himplicit
        rw [(hm.faults _ hmem).implicitBeanName.eq_text hne]
        exact Value.isText_text _
      have hout := faultScript_declares hname h
      refine ⟨hout, fun d hd => ?_⟩
      rw [hout] at hd
      split at hd
      · rename_i himplicit
        rw [List.mem_singleton.1 hd]
        exact (hcarriers f hf himplicit).1
      · cases hd
  obtain ⟨rfl, htypeNames⟩ := yields_each_forall htypes fun t ht out plan h => by
    obtain ⟨hout, hd⟩ := typeScript_declares (hm.types t ht) h
    refine ⟨hout, fun d hmem => ?_⟩
    rw [hout] at hmem
    split at hmem
    · rwa [List.mem_singleton.1 hmem]
    · cases hmem
  obtain ⟨rfl, -⟩ := yields_each (fun _ => []) (fun _ _ => True) hroots fun e _ out u h =>
    ⟨rootScript_declares h, trivial⟩
  have hroots : (m.rootElements.flatMap fun _ => ([] : List Manifest.Declaration)) = [] := by simp
  refine ⟨hresolved, ?_, ?_⟩
  · rw [flatMap_ite, flatMap_ite, hroots, ServiceModel.declared, ServiceModel.beanMessages]
    simp [List.map_flatMap]
  · rw [hroots]
    simp only [List.append_nil, List.nil_append, List.forall_mem_append]
    exact ⟨hbeans, hfaultBeans, htypeNames⟩

/-- **A common phase that was played has declared the generated types of the model**, each with the
name that it resolves. -/
theorem Site.play_declares {site : Site} {m : ServiceModel} {plan : CommonPlan} {b b' : Bench}
    {s s' : Session} (hm : m.Typed)
    (h : (site.play b (commonScript r m)).Returns s (plan, b') s') :
    resolveFaults r m.faults = .ok plan.faults ∧
      b.manifest.addAll (m.declared r plan.faults) = .ok b'.manifest ∧
      ∀ d ∈ m.declared r plan.faults, d.Resolves r := by
  obtain ⟨hresult, hsteps⟩ := Site.play_returns.1 h
  obtain ⟨hfaults, hdeclared, hresolves⟩ :=
    commonScript_declares hm (yields_steps Step.declaration? hresult)
  rw [← hdeclared]
  exact ⟨hfaults, Site.performAll_manifest hsteps, hresolves⟩

end

end SoapStubs
