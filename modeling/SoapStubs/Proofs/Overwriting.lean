import SoapStubs.Proofs.Closure
import SoapStubs.Proofs.Emission
import SoapStubs.Proofs.FaultOrder

/-!
# Which sources are overwritten

Two sources of the common phase may be rendered to one file.  If their texts differ, then the first
one is lost, although the phase returns with both among its artifacts.  The manifest and the
conflicts of the registry rule out most of these cases, and `Origin.Unchecked` lists those that are
left.

* `Origin` is what a source is rendered for, and `commonScript_emits` says that each source is
  rendered for something that belongs to the model;
* `Generator.Accounts` says what is known of a common phase that returned: its artifacts, when their
  files hold their texts, and for which pairs they may not;
* `Generator.runCommon_accounts` is the theorem, and `Generator.runCommon_loses_notes` an example of
  a source that is lost.
-/

namespace SoapStubs

open FileTree

/-! ### What sources are rendered for -/

/-- What a source of the common phase is rendered for. -/
inductive Origin where
  /-- The bean of a message, of the method with a key. -/
  | message (key : String) (b : BeanMessage)
  /-- The bean of an implicit fault. -/
  | carrier (f : ResolvedFault)
  /-- The binding of a type. -/
  | type (t : TypeDefinition)

namespace Origin

/-- The class that is rendered. -/
def identifier (r : Resolver) : Origin → String
  | .message _ b => b.identifier r
  | .carrier f => f.carrier
  | .type t => bindingIdentifier (t.identifier r)

def source (r : Resolver) (m : ServiceModel) : Origin → Except Failure Source
  | .message key b => do
    let properties ← propertyBindings r b.children .legacy
    return {
      category := if b.wrapper.isRequest then .requestBean else .responseBean
      template := if b.wrapper.isRequest then "request-bean" else "response-bean"
      identifier := b.identifier r
      bindings := [("operation", .text key), ("element_name", b.elementName),
        ("namespace", b.space), ("properties", properties)] }
  | .carrier f => do
    let properties ← propertyBindings r f.fault.children .legacy
    return {
      category := .faultBean, template := "fault-bean", identifier := f.carrier
      bindings := [("fault", .text f.identifier), ("element_name", f.elementName),
        ("namespace", f.elementNamespace), ("properties", properties)] }
  | .type t => do
    let bindings ← typeBindings r ⟨t.identifier r, t, m.rootElementOf t⟩ .legacy
    return {
      category := .typeBinding, template := t.kind.bindingTemplate
      identifier := bindingIdentifier (t.identifier r)
      bindings := bindings ++ [("type_identifier", .text (t.identifier r))] }

def Belongs (r : Resolver) (m : ServiceModel) : Origin → Prop
  | .message key b => ∃ e ∈ m.endpoints, ∃ o ∈ e.operations,
      b ∈ o.beanMessages ∧ key = o.methodKey (e.identifier r)
  | .carrier f => f.isImplicit = true ∧ ∃ faults, resolveFaults r m.faults = .ok faults ∧ f ∈ faults
  | .type t => t ∈ m.types

theorem source_inv {r : Resolver} {m : ServiceModel} {o : Origin} {source : Source}
    (h : o.source r m = .ok source) :
    source.identifier = o.identifier r ∧ source.variant = none := by
  cases o with
  | message key b =>
    obtain ⟨properties, -, rfl⟩ := return_eq_ok.1 h
    exact ⟨by rw [Origin.identifier], rfl⟩
  | carrier f =>
    obtain ⟨properties, -, rfl⟩ := return_eq_ok.1 h
    exact ⟨by rw [Origin.identifier], rfl⟩
  | type t =>
    obtain ⟨bindings, -, rfl⟩ := return_eq_ok.1 h
    exact ⟨by rw [Origin.identifier], rfl⟩

end Origin

/-! ### The sources of the common phase -/

namespace Script

variable {α β : Type} {x : Script α} {f : α → Script β} {P : Step → Prop}

/-- Every step of the script is such a step. -/
def Every (P : Step → Prop) (x : Script α) : Prop := ∀ step ∈ x.steps, P step

theorem every_pure (a : α) : (pure a : Script α).Every P := by
  intro step hstep
  cases hstep

theorem every_lift (r : Except Failure α) : (lift r).Every P := by
  intro step hstep
  cases hstep

theorem every_take {step : Step} (h : P step) : (take step).Every P := by
  intro step' hstep
  rwa [List.mem_singleton.1 hstep]

theorem every_logged {l : Logged α} (h : ∀ event, P (.note event)) : (logged l).Every P := by
  intro step hstep
  obtain ⟨event, -, rfl⟩ := List.mem_map.1 hstep
  exact h event

theorem every_bind (hx : x.Every P) (hf : ∀ a, x.result = .ok a → (f a).Every P) :
    (x >>= f).Every P := by
  intro step hstep
  cases hresult : x.result with
  | error e =>
    rw [bind_of_error hresult] at hstep
    exact hx step hstep
  | ok a =>
    rw [bind_of_ok hresult] at hstep
    rcases List.mem_append.1 hstep with hstep | hstep
    · exact hx step hstep
    · exact hf a hresult step hstep

theorem every_each {g : α → Script β} {l : List α} (h : ∀ a ∈ l, (g a).Every P) :
    (each g l).Every P := by
  induction l with
  | nil => exact every_pure []
  | cons a l ih =>
    obtain ⟨ha, hl⟩ := List.forall_mem_cons.1 h
    exact every_bind ha fun b _ => every_bind (ih hl) fun bs _ => every_pure _

end Script

section

open Script

variable {r : Resolver} {m : ServiceModel} {key : String} {P : Step → Prop}

theorem messagesScript_every {ms : List Message} {found : MessageOutcome}
    (h : ∀ b, .bean b ∈ ms → (beanScript r key b).Every P) :
    (messagesScript r key found ms).Every P := by
  induction ms generalizing found with
  | nil => exact every_pure _
  | cons message ms ih =>
    have hrest : ∀ b, .bean b ∈ ms → (beanScript r key b).Every P :=
      fun b hb => h b (List.mem_cons_of_mem _ hb)
    cases message with
    | fault f => exact every_bind (every_lift _) fun id _ => ih hrest
    | bean b => exact every_bind (h b List.mem_cons_self) fun bean _ => ih hrest

theorem parametersScript_every {ps : List Parameter} {i : Nat}
    (h : ∀ p ∈ ps, ∀ key, P (.record key p.descriptor)) : (parametersScript key i ps).Every P := by
  induction ps generalizing i with
  | nil => exact every_pure _
  | cons p ps ih =>
    obtain ⟨hp, hps⟩ := List.forall_mem_cons.1 h
    exact every_bind (every_take (hp _)) fun _ _ => ih hps

theorem typeScript_every {t : TypeDefinition} (hdeclare : ∀ id origin, P (.declare id origin))
    (hemit : ∀ id bindings, r.resolve t = .ok id →
      typeBindings r ⟨id, t, m.rootElementOf t⟩ .legacy = .ok bindings → P (.emit {
        category := .typeBinding, template := t.kind.bindingTemplate
        identifier := bindingIdentifier id
        bindings := bindings ++ [("type_identifier", .text id)] })) :
    (typeScript r m t).Every P := by
  refine every_bind (every_lift _) fun id hid => ?_
  dsimp only
  split
  · refine every_bind (every_take (hdeclare _ _)) fun _ _ => ?_
    refine every_bind (every_lift _) fun bindings hbindings => ?_
    exact every_bind (every_take (hemit id bindings hid hbindings)) fun _ _ => every_pure _
  · refine every_bind (every_lift _) fun bindings hbindings => ?_
    exact every_bind (every_take (hemit id bindings hid hbindings)) fun _ _ => every_pure _

/-- The step renders nothing but a source for something that belongs to the model. -/
def Step.Emits (r : Resolver) (m : ServiceModel) : Step → Prop
  | .emit source => ∃ o : Origin, o.Belongs r m ∧ o.source r m = .ok source
  | _ => True

theorem beanScript_emits {b : BeanMessage} (hb : b.Typed)
    (hbelongs : (Origin.message key b).Belongs r m) :
    (beanScript r key b).Every (Step.Emits r m) := by
  unfold beanScript
  split
  · exact every_lift _
  refine every_bind (every_lift _) fun bean hbean => ?_
  have hname := hb.beanName.qualifiedName_eq
  obtain ⟨hid, -⟩ := Resolver.resolve_inv (by rw [hname]; exact hb.beanName) hbean
  rw [hname] at hid
  refine every_bind (every_take trivial) fun _ _ => every_bind (every_take trivial) fun _ _ => ?_
  refine every_bind (every_lift _) fun properties hproperties => ?_
  refine every_bind (every_take ⟨.message key b, hbelongs, ?_⟩) fun _ _ => every_pure _
  rw [Origin.source, show propertyBindings r b.children .legacy = .ok properties from hproperties,
    hid]
  rfl

theorem operationScript_emits {e : Endpoint} (he : e ∈ m.endpoints) {o : Operation}
    (ho : o ∈ e.operations) (htyped : o.Typed) :
    (operationScript r (e.identifier r) o).Every (Step.Emits r m) := by
  rw [operationScript, htyped.name.plain_eq, ← Operation.methodKey]
  have hparameters : (parametersScript (o.methodKey (e.identifier r)) 0 o.parameters).Every
      (Step.Emits r m) := parametersScript_every fun _ _ _ => trivial
  refine every_bind (messagesScript_every fun b hb => ?_) fun found _ => ?_
  · exact beanScript_emits (htyped.messages _ hb)
      ⟨e, he, o, ho, List.mem_filterMap.2 ⟨_, hb, rfl⟩, rfl⟩
  refine every_bind (every_take trivial) fun _ _ => every_bind (every_take trivial) fun _ _ => ?_
  refine every_bind (every_take trivial) fun _ _ => ?_
  split
  · exact every_bind (every_take trivial) fun _ _ => every_bind hparameters fun _ _ => every_pure _
  · exact every_bind hparameters fun _ _ => every_pure _

theorem endpointScript_emits {e : Endpoint} (he : e ∈ m.endpoints) (htyped : e.Typed) :
    (endpointScript r e).Every (Step.Emits r m) := by
  refine every_bind (every_lift _) fun id hid => ?_
  obtain ⟨rfl, -⟩ := Resolver.resolve_inv htyped.qualifiedName hid
  refine every_bind (every_take trivial) fun _ _ => every_bind (every_take trivial) fun _ _ => ?_
  refine every_bind (every_each fun o ho => ?_) fun _ _ => every_pure _
  exact operationScript_emits he ho (htyped.operations o ho)

theorem faultScript_emits {faults : List ResolvedFault}
    (hfaults : resolveFaults r m.faults = .ok faults) {f : ResolvedFault} (hf : f ∈ faults) :
    (faultScript r f).Every (Step.Emits r m) := by
  unfold faultScript
  split
  · rename_i himplicit
    refine every_bind ?_ fun _ _ => every_take trivial
    refine every_bind (every_take trivial) fun _ _ => ?_
    refine every_bind (every_lift _) fun properties hproperties => ?_
    refine every_take ⟨.carrier f, ⟨himplicit, faults, hfaults, hf⟩, ?_⟩
    rw [Origin.source,
      show propertyBindings r f.fault.children .legacy = .ok properties from hproperties]
    rfl
  · exact every_take trivial

theorem typeScript_emits {t : TypeDefinition} (ht : t ∈ m.types) (htyped : t.Typed) :
    (typeScript r m t).Every (Step.Emits r m) := by
  refine typeScript_every (fun _ _ => trivial) fun id bindings hid hbindings => ⟨.type t, ht, ?_⟩
  obtain ⟨rfl, -⟩ := Resolver.resolve_inv htyped.qualifiedName hid
  rw [Origin.source, show typeBindings r ⟨t.identifier r, t, m.rootElementOf t⟩ .legacy =
    .ok bindings from hbindings]
  rfl

/-- Each source of the common phase is rendered for something that belongs to the model. -/
theorem commonScript_emits (hm : m.Typed) : (commonScript r m).Every (Step.Emits r m) := by
  refine every_bind (every_each fun e he => endpointScript_emits he (hm.endpoints e he))
    fun endpoints _ => ?_
  refine every_bind (every_logged fun _ => trivial) fun faults hfaults => ?_
  refine every_bind (every_each fun f hf => faultScript_emits (resolveFaultsLogged_ok hfaults) hf)
    fun _ _ => ?_
  refine every_bind (every_each fun t ht => typeScript_emits ht (hm.types t ht)) fun types _ => ?_
  refine every_bind (every_each fun e _ => ?_) fun _ _ => every_pure _
  exact every_bind (every_lift _) fun _ _ => every_take trivial

end

/-! ### Sources of one class -/

theorem Name.qualify_append (package simple suffix : String) :
    qualify package simple ++ suffix = qualify package (simple ++ suffix) := by
  unfold qualify
  split_ifs
  · rfl
  · exact String.append_assoc

/-- The binding of a type is named after it. -/
theorem bindingIdentifier_resolveName (r : Resolver) (name : String) :
    bindingIdentifier (r.resolveName name) = r.resolveName name ++ "TypeBinding" := by
  rw [bindingIdentifier, r.package_resolveName, r.simple_resolveName, r.resolveName_eq,
    Name.qualify_append]

/-- The binding of a type has the name of one type only. -/
theorem resolveName_eq_of_bindingIdentifier {r : Resolver} {n n' : String}
    (h : bindingIdentifier (r.resolveName n) = bindingIdentifier (r.resolveName n')) :
    r.resolveName n = r.resolveName n' := by
  rw [bindingIdentifier_resolveName, bindingIdentifier_resolveName] at h
  exact (String.append_left_inj _).1 h

namespace Origin

/-- Nothing rules out that the two are rendered to one file. -/
inductive Unchecked : Origin → Origin → Prop where
  /-- Two messages with one bean and the same descriptor, which has the names of the elements inside
  but not their types. -/
  | messages {key key' : String} {b b' : BeanMessage} (h : b.descriptor key = b'.descriptor key')
      (hne : b.children ≠ b'.children) : Unchecked (.message key b) (.message key' b')
  /-- A message and a fault whose beans have one name. -/
  | messageFault {key : String} {b : BeanMessage} {f : ResolvedFault}
      (h : b.beanName.nameText = f.fault.implicitBeanName.nameText) :
      Unchecked (.message key b) (.carrier f)
  /-- Two faults whose beans have one name. -/
  | faults {f f' : ResolvedFault} (hne : f.identifier ≠ f'.identifier)
      (h : f.fault.implicitBeanName.nameText = f'.fault.implicitBeanName.nameText) :
      Unchecked (.carrier f) (.carrier f')
  /-- Two types of one name, or with one identifier and one of them abstract. -/
  | types {t t' : TypeDefinition} (hne : t ≠ t')
      (h : t.qualifiedName.nameText = t'.qualifiedName.nameText ∨ t.isAbstract = true ∨
        t'.isAbstract = true) : Unchecked (.type t) (.type t')
  /-- A bean of a message with the name of a type's binding. -/
  | bindingMessage {t : TypeDefinition} {key : String} {b : BeanMessage} :
      Unchecked (.type t) (.message key b)
  /-- A bean of a fault with the name of a type's binding. -/
  | bindingFault {t : TypeDefinition} {f : ResolvedFault} : Unchecked (.type t) (.carrier f)

section Declared

variable {r : Resolver} {m : ServiceModel}

theorem declared_of_message (faults : List ResolvedFault) {key : String} {b : BeanMessage}
    (h : (Origin.message key b).Belongs r m) :
    b.declaration r ∈ m.declared r faults ∧
      (b.identifier r, b.descriptor key) ∈ m.writes r faults := by
  obtain ⟨e, he, o, ho, hb, rfl⟩ := h
  constructor
  · exact List.mem_append_left _ (List.mem_map_of_mem (List.mem_flatMap.2
      ⟨e, he, List.mem_flatMap.2 ⟨o, ho, hb⟩⟩))
  · refine ServiceModel.mem_writes.2 (.inl ⟨e, he, .inr (.inr ⟨o, ho, ?_⟩)⟩)
    exact List.mem_append_left _ (List.mem_map_of_mem hb)

theorem declared_of_carrier {f : ResolvedFault} {faults : List ResolvedFault}
    (hresolved : resolveFaults r m.faults = .ok faults) (h : (Origin.carrier f).Belongs r m) :
    f ∈ faults ∧ f.declaration ∈ m.declared r faults := by
  obtain ⟨himplicit, faults, hfaults, hf⟩ := h
  obtain rfl := Except.ok.inj (hfaults.symm.trans hresolved)
  refine ⟨hf, List.mem_append_right _ (List.mem_append_left _ (List.mem_map_of_mem ?_))⟩
  exact List.mem_filter.2 ⟨hf, himplicit⟩

theorem declared_of_type (faults : List ResolvedFault) {t : TypeDefinition} (h : t ∈ m.types)
    (ht : t.isAbstract = false) : t.declaration r ∈ m.declared r faults := by
  refine List.mem_append_right _ (List.mem_append_right _ (List.mem_map_of_mem ?_))
  exact List.mem_filter.2 ⟨h, by simp [ht]⟩

theorem source_message_eq {key key' : String} {b b' : BeanMessage}
    (hid : b.identifier r = b'.identifier r) (hd : b.descriptor key = b'.descriptor key')
    (hchildren : b.children = b'.children) :
    (Origin.message key b).source r m = (Origin.message key' b').source r m := by
  obtain ⟨hname, hspace, hdirection, hkey, -⟩ := Descriptor.wrapper.inj hd
  have hrequest : b.wrapper.isRequest = b'.wrapper.isRequest := by
    simp only [Wrapper.direction, Value.text.injEq] at hdirection
    split at hdirection <;> split at hdirection <;> simp_all
  simp only [Origin.source, hname, hspace, Value.text.inj hkey, hrequest, hid, hchildren]

end Declared

end Origin

namespace Generator

variable {g : Generator} {c : CommonResult}

/-- **Sources of one class**: if they are not the same, then nothing rules out the two. -/
theorem Delivered.unchecked (hc : g.Delivered c) (hm : g.model.Typed)
    (hconflicts : c.registry.conflicts = []) {o o' : Origin}
    (ho : o.Belongs g.resolver g.model) (ho' : o'.Belongs g.resolver g.model)
    (hid : o.identifier g.resolver = o'.identifier g.resolver)
    (hne : o.source g.resolver g.model ≠ o'.source g.resolver g.model) :
    o.Unchecked o' ∨ o'.Unchecked o := by
  cases o with
  | message key b =>
    obtain ⟨hdeclared, hwritten⟩ := Origin.declared_of_message c.plan.faults ho
    cases o' with
    | message key' b' =>
      obtain ⟨-, hwritten'⟩ := Origin.declared_of_message c.plan.faults ho'
      have hid : b.identifier g.resolver = b'.identifier g.resolver := hid
      rw [hid] at hwritten
      have hd := hc.descriptor_eq hm hconflicts hwritten hwritten' rfl
      exact .inl (.messages hd fun hchildren => hne (Origin.source_message_eq hid hd hchildren))
    | carrier f =>
      obtain ⟨-, hdeclared'⟩ := Origin.declared_of_carrier hc.resolved ho'
      exact .inl (.messageFault (hc.named _ hdeclared _ hdeclared' hid))
    | type t => exact .inr .bindingMessage
  | carrier f =>
    obtain ⟨hmem, hdeclared⟩ := Origin.declared_of_carrier hc.resolved ho
    cases o' with
    | message key' b' =>
      obtain ⟨hdeclared', -⟩ := Origin.declared_of_message c.plan.faults ho'
      exact .inr (.messageFault (hc.named _ hdeclared' _ hdeclared hid.symm))
    | carrier f' =>
      obtain ⟨hmem', hdeclared'⟩ := Origin.declared_of_carrier hc.resolved ho'
      refine .inl (.faults (fun hsame => hne ?_) (hc.named _ hdeclared _ hdeclared' hid))
      have hres := (resolution_of_ok g.resolver hm.faults hc.resolved).2
      rw [hres.eq_of_identifier hmem hmem' hsame]
    | type t => exact .inr .bindingFault
  | type t =>
    cases o' with
    | message key' b' => exact .inl .bindingMessage
    | carrier f' => exact .inl .bindingFault
    | type t' =>
      refine .inl (.types (fun hsame => hne (by rw [hsame])) ?_)
      cases ht : t.isAbstract with
      | true => exact .inr (.inl rfl)
      | false =>
        cases ht' : t'.isAbstract with
        | true => exact .inr (.inr rfl)
        | false =>
          have hsame := resolveName_eq_of_bindingIdentifier hid
          exact .inl (hc.named _ (Origin.declared_of_type _ ho ht) _
            (Origin.declared_of_type _ ho' ht') hsame)

/-! ### The theorem -/

/-- The sources that the common phase renders, with their files and texts. -/
def emissions (g : Generator) : List Emission :=
  g.site.emissions (commonScript g.resolver g.model).steps

/-- Nothing rules out that the source is overwritten by the other one: they are of different
classes, one of which has a name with a slash or an empty part, or they are of one class and of two
kinds that are not checked against each other. -/
def Overlooks (g : Generator) (e e' : Emission) : Prop :=
  ∃ o o' : Origin, o.Belongs g.resolver g.model ∧ o'.Belongs g.resolver g.model ∧
    o.source g.resolver g.model = .ok e.source ∧ o'.source g.resolver g.model = .ok e'.source ∧
    ((o.identifier g.resolver ≠ o'.identifier g.resolver ∧
        ¬(Name.IsPlain (o.identifier g.resolver) ∧ Name.IsPlain (o'.identifier g.resolver))) ∨
      (o.identifier g.resolver = o'.identifier g.resolver ∧
        (o.Unchecked o' ∨ o'.Unchecked o)))

/-- What is known of the sources and the files after a common phase that returned. -/
structure Accounts (g : Generator) (c : CommonResult) (t : FileTree) : Prop where
  /-- The artifacts are the sources that were rendered. -/
  artifacts : c.artifacts = g.emissions.map Emission.artifact
  /-- A file holds the text of a source that was rendered to it. -/
  held : ∀ e ∈ g.emissions, ∃ e' ∈ g.emissions, t.SameFile e.target e'.target ∧
    t.read e.target = .ok (.text e'.text)
  /-- All files hold the texts of their sources exactly if no two sources were rendered to one file
  with different texts. -/
  faithful : (∀ e ∈ g.emissions, t.read e.target = .ok (.text e.text)) ↔
    ∀ e ∈ g.emissions, ∀ e' ∈ g.emissions, t.SameFile e.target e'.target → e.text = e'.text
  /-- Without conflicts, this happens to sources only that nothing rules out. -/
  overlooked : c.registry.conflicts = [] → ∀ e ∈ g.emissions, ∀ e' ∈ g.emissions,
    t.SameFile e.target e'.target → e.text ≠ e'.text → g.Overlooks e e'

theorem exists_origin (hm : g.model.Typed) {e : Emission} (he : e ∈ g.emissions) :
    ∃ o : Origin, o.Belongs g.resolver g.model ∧ o.source g.resolver g.model = .ok e.source :=
  commonScript_emits hm _ (Site.mem_emissions.1 he).1

/-- Without conflicts, sources that were rendered to one file with different texts are not checked
against each other. -/
theorem overlooks_of_sameFile (hm : g.model.Typed) (hc : g.Delivered c)
    (hconflicts : c.registry.conflicts = []) {e e' : Emission} (he : e ∈ g.emissions)
    (he' : e' ∈ g.emissions) {t : FileTree} (hsame : t.SameFile e.target e'.target)
    (hne : e.text ≠ e'.text) : g.Overlooks e e' := by
  obtain ⟨o, ho, hsource⟩ := exists_origin hm he
  obtain ⟨o', ho', hsource'⟩ := exists_origin hm he'
  obtain ⟨hid, hvariant⟩ := Origin.source_inv hsource
  obtain ⟨hid', hvariant'⟩ := Origin.source_inv hsource'
  refine ⟨o, o', ho, ho', hsource, hsource', ?_⟩
  have hrender := (Site.mem_emissions.1 he).2
  have hrender' := (Site.mem_emissions.1 he').2
  by_cases hsameId : o.identifier g.resolver = o'.identifier g.resolver
  · refine .inr ⟨hsameId, hc.unchecked hm hconflicts ho ho' hsameId fun heq => hne ?_⟩
    rw [hsource, hsource'] at heq
    rw [Except.ok.inj heq, hrender', Except.ok.injEq, Prod.mk.injEq] at hrender
    exact hrender.2.symm
  · refine .inl ⟨hsameId, fun hplain => hsameId ?_⟩
    rw [← hid, ← hid'] at hplain ⊢
    exact Site.identifier_eq_of_sameFile (hvariant.trans hvariant'.symm) hplain.1 hplain.2
      (Site.target_of_render hrender) (Site.target_of_render hrender') hsame

/-- **Which sources are overwritten.**  The common phase of a typed model fails, with an integrity
error or because a source cannot be rendered, or it returns, and then each file holds the text that
was rendered to it last.  If the registry has no conflicts, then sources with different texts in one
file are among those that nothing rules out. -/
theorem runCommon_accounts (hm : g.model.Typed) (s : Session) : g.RejectsCommon s ∨
    ∃ c s', g.runCommon.Returns s c s' ∧ g.Accounts c s'.files := by
  obtain ⟨s₁, hfiles, hcases⟩ := g.runCommon_cases s
  rcases hcases with ⟨c, s₂, s', hbody, hreturns, hfiles'⟩ | ⟨e, s₂, s', hbody, hfails, -⟩
  swap
  · exact .inl (rejectsCommon_of_fails hm hfiles hbody hfails)
  have hdelivered := delivered_of_returns hm hreturns
  obtain ⟨plan, b, hplay, rfl⟩ := commonBody_returns.1 hbody
  obtain ⟨hkept, hartifacts⟩ := Site.performAll_kept (.nil _) (Site.play_returns.1 hplay).2
  rw [List.nil_append, ← hfiles'] at hkept
  refine .inr ⟨_, s', hreturns, hartifacts, fun e he => hkept.read_eq he, hkept.faithful_iff, ?_⟩
  intro hconflicts e he e' he' hsame hne
  exact overlooks_of_sameFile hm hdelivered hconflicts he he' hsame hne

/-- A model with two abstract types that are moved onto one, of different namespaces. -/
def twinNotes : Generator :=
  { twinItems with
    model := {
      schemaGroups := [
        (.text "urn:north", { types := [
          { qualifiedName := .text "north.Note", space := .text "urn:north"
            isAbstract := true }] }),
        (.text "urn:south", { types := [
          { qualifiedName := .text "south.Note", space := .text "urn:south"
            isAbstract := true }] })] } }

theorem runCommon_accounts_notes : twinNotes.model.Typed ∧ ∃ c s',
    twinNotes.runCommon.Returns {} c s' ∧ twinNotes.Accounts c s'.files := by
  have hm : twinNotes.model.Typed := by decide
  refine ⟨hm, (runCommon_accounts hm {}).resolve_left ?_⟩
  rintro ⟨e, s', hfails, -⟩
  obtain ⟨c, s'', hreturns⟩ :=
    @Run.returns_of_isOk _ twinNotes.runCommon {} (by decide +kernel)
  exact hreturns.not_fails hfails

/-- **A source that is lost without a word**: the phase returns and there are no conflicts, but two
different texts were rendered to one file. -/
theorem runCommon_loses_notes : twinNotes.model.Typed ∧ ∃ c s',
    twinNotes.runCommon.Returns {} c s' ∧ c.registry.conflicts = [] ∧
      ∃ e ∈ twinNotes.emissions, ∃ e' ∈ twinNotes.emissions,
        e.target = e'.target ∧ e.text ≠ e'.text := by
  have hreturns := @Run.returns_of_check _ twinNotes.runCommon {}
    (fun c => c.registry.conflicts.isEmpty) (by decide +kernel)
  obtain ⟨c, s', h, hconflicts⟩ := hreturns
  have hemissions : ∃ e ∈ twinNotes.emissions, ∃ e' ∈ twinNotes.emissions,
      e.target = e'.target ∧ e.text ≠ e'.text := by decide +kernel
  exact ⟨by decide, c, s', h, List.isEmpty_iff.1 hconflicts, hemissions⟩

end Generator

end SoapStubs
