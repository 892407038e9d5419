import SoapStubs.Proofs.Declarations

/-!
# Failures inside of the phases

The run, the phase and the variant are named by the phases only: the parts of the library that work
inside of them log entries, and fail with errors, that leave this open.  And if a model is typed,
then it is at worst inconsistent, so that these errors are integrity errors.

* `Event.Plain` and `Failure.Plain` say that an entry and a failure leave it open, and
  `Failure.Mild` adds that the failure is an integrity error on a condition;
* `Blames` says of a computation what its failures are like, and `Script.Mild` of a script that its
  entries are plain and its failure is mild;
* `mild_commonScript` and `mild_variantScript` go through the scripts of the phases, once for both.
-/

namespace SoapStubs

/-! ### Entries and failures -/

/-- The entry is none of a phase, and names neither a run nor a phase itself. -/
structure Event.Plain (e : Event) : Prop where
  /-- It has not the name of an entry of a phase. -/
  name : e.event.toList.contains '.' = false
  /-- It names no run. -/
  run : e.fields.has "run_id" = false
  /-- It names no phase. -/
  phase : e.fields.has "phase" = false

/-- An error names no run, no phase and no variant. -/
def Failure.Plain : Failure → Prop
  | .error e => e.context.runId = .null ∧ e.context.phase = .null ∧ e.context.variant = .null
  | .bare _ => True

theorem Failure.plain_of (problem : Problem) (v : Value) (cause : Option Cause) :
    (Failure.of problem [("entity", v)] cause).Plain := by
  cases v <;> exact ⟨rfl, rfl, rfl⟩

/-- The failure is an integrity error. -/
def Failure.IsIntegrity (f : Failure) : Prop := ∃ e : Error, f = .error e ∧ e.kind = .integrity

/-- The failure is plain, and on a condition it is an integrity error.  The condition will be that
what was read is typed. -/
def Failure.Mild (T : Prop) (f : Failure) : Prop := f.Plain ∧ (T → f.IsIntegrity)

/-- The computation fails only with failures of a kind. -/
def Blames {α : Type} (P : Failure → Prop) (x : Except Failure α) : Prop :=
  ∀ f, x = .error f → P f

/-- The computation fails with plain failures only. -/
abbrev Plain {α : Type} (x : Except Failure α) : Prop := Blames Failure.Plain x

/-- The computation fails with mild failures only. -/
abbrev Mild {α : Type} (T : Prop) (x : Except Failure α) : Prop := Blames (Failure.Mild T) x

section

variable {α β : Type} {P : Failure → Prop} {x : Except Failure α}

theorem blames_ok (a : α) : Blames P (.ok a) := by
  intro f h
  cases h

theorem blames_error {f : Failure} (h : P f) : Blames P (.error f : Except Failure α) := by
  intro f' hf
  cases hf
  exact h

theorem plain_bare (x : Except Cause α) : Plain (bare x) := by
  cases x with
  | ok a => exact blames_ok a
  | error c => exact blames_error trivial

theorem Blames.bind {f : α → Except Failure β} (hx : Blames P x) (hf : ∀ a, Blames P (f a)) :
    Blames P (x >>= f) := by
  cases x with
  | ok a => exact hf a
  | error e => exact blames_error (hx e rfl)

theorem Blames.map (hx : Blames P x) (f : α → β) : Blames P (x.map f) := by
  cases x with
  | ok a => exact blames_ok (f a)
  | error e => exact blames_error (hx e rfl)

theorem blames_foldlM {f : β → α → Except Failure β} (h : ∀ b a, Blames P (f b a)) (b : β)
    (l : List α) : Blames P (l.foldlM f b) := by
  induction l generalizing b with
  | nil => exact blames_ok b
  | cons a l ih => exact (h b a).bind ih

theorem blames_mapM {f : α → Except Failure β} {l : List α} (h : ∀ a ∈ l, Blames P (f a)) :
    Blames P (l.mapM f) := by
  induction l with
  | nil => exact blames_ok []
  | cons a l ih =>
    obtain ⟨ha, hl⟩ := List.forall_mem_cons.1 h
    rw [List.mapM_cons]
    exact ha.bind fun b => (ih hl).bind fun bs => blames_ok (b :: bs)

end

/-! ### Names and bindings -/

section

variable {T : Prop} (r : Resolver)

theorem plain_resolve {α : Type} [Named α] (a : α) : Plain (r.resolve a) := by
  refine Blames.map ?_ _
  rw [Resolver.qualifiedName]
  split
  · exact blames_error (Failure.plain_of ..)
  · exact blames_ok _
  · split
    · exact blames_error trivial
    · exact blames_error (Failure.plain_of ..)

/-- Entities whose names are typed are resolved, or are integrity errors. -/
theorem mild_resolve {α : Type} [Named α] {a : α} (h : T → (Named.qualifiedName a).IsName) :
    Mild T (r.resolve a) := by
  intro f hf
  refine ⟨plain_resolve r a f hf, fun ht => ?_⟩
  by_cases hs : (Named.qualifiedName a).nameText = ""
  · obtain ⟨e, he, hkind⟩ := r.resolve_error (h ht) hs
    cases he.symm.trans hf
    exact ⟨e, rfl, hkind⟩
  · rw [r.resolve_ok ((h ht).eq_text hs) hs] at hf
    cases hf

theorem mild_resolveType {ref : Option TypeRef} (h : T → ∀ t ∈ ref, t.Typed) (v : Variant) :
    Mild T (r.resolveType ref v) := by
  cases ref with
  | none => exact blames_ok _
  | some ref =>
    have hresolve : Mild T (r.resolve ref) := mild_resolve r fun ht => (h ht ref rfl).qualifiedName
    show Mild T (if !ref.isCollection then r.resolve ref else _)
    split
    · exact hresolve
    · cases v with
      | legacy => exact blames_ok _
      | modern => exact (hresolve.map _).map _

theorem mild_valueType {ref : Option TypeRef} (h : T → ∀ t ∈ ref, t.Typed) (v : Variant) :
    Mild T (valueType r ref v) := by
  cases ref with
  | none => exact blames_ok _
  | some ref => exact mild_resolveType r h v

theorem mild_propertyBindings {children : List ChildElement}
    (h : T → ∀ c ∈ children, c.Typed) (v : Variant) :
    Mild T (propertyBindings r children v) := by
  refine (blames_mapM fun c hc => ?_).bind fun _ => blames_ok _
  exact (mild_valueType r (fun ht => (h ht c hc).type) v).bind fun _ => blames_ok _

theorem mild_typeBindings {plan : TypePlan} (h : T → plan.definition.Typed) (v : Variant) :
    Mild T (typeBindings r plan v) := by
  have hmember : ∀ m ∈ plan.definition.members, Mild T (memberBinding r v m) := by
    intro m hm
    have htyped (ht : T) : m.type.Typed := ((h ht).members m hm).type
    refine (mild_resolveType r (fun ht t hmem => ?_) v).bind fun type => ?_
    · exact Option.mem_some.1 hmem ▸ htyped ht
    split
    · exact (((mild_resolve r fun ht => (htyped ht).qualifiedName).map _).map _).bind
        fun _ => blames_ok _
    · exact blames_ok _
  have hbase : Mild T (baseBinding r plan.definition.base) := by
    cases hb : plan.definition.base with
    | none => exact blames_ok _
    | some ref => exact (mild_resolve r fun ht => ((h ht).base ref hb).qualifiedName).map _
  exact (blames_mapM hmember).bind fun _ => hbase.bind fun _ => blames_ok _

theorem mild_endpointBindings {plan : EndpointPlan}
    (h : T → ∀ o ∈ plan.operations, o.operation.Typed) (v : Variant) :
    Mild T (endpointBindings r plan v) := by
  refine (blames_mapM fun o ho => ?_).bind fun _ => blames_ok _
  refine (mild_resolveType r (fun ht => (h ht o ho).result.type) v).bind fun _ => ?_
  refine (blames_mapM fun p hp => ?_).bind fun _ => blames_ok _
  exact (mild_valueType r (fun ht => ((h ht o ho).parameters p hp).type) v).bind
    fun _ => blames_ok _

/-! ### Faults -/

theorem plain_declarations (faults : List Fault) : Plain (declarations faults) := by
  refine blames_foldlM (fun groups f => ?_) _ _
  split
  · exact blames_error (Failure.plain_of ..)
  · exact (plain_bare _).bind fun _ => blames_ok _

theorem plain_representative (name : Value) (declared : List Fault) :
    Plain (representative name declared) := by
  have hcheck : Plain (declared.forM fun f => bare (f.carrier.bean.asKey.map fun _ => ())) := by
    induction declared with
    | nil => exact blames_ok ()
    | cons f declared ih => exact (plain_bare _).bind fun _ => ih
  refine hcheck.bind fun _ => ?_
  split
  · exact blames_error (Failure.plain_of ..)
  · split
    · exact blames_error ⟨rfl, rfl, rfl⟩
    · exact plain_bare _

theorem plain_addFault (found : Ordered String (Value × ResolvedFault))
    (group : Value × List Fault) : Plain (addFault r found group) := by
  have hentry (identifier : String) (f : Fault) : Plain (resolveFault r identifier f) := by
    rw [resolveFault]
    split
    · split
      · exact blames_error (Failure.plain_of ..)
      · exact (plain_resolve r _).bind fun _ => blames_ok _
    · exact (plain_resolve r _).bind fun _ => blames_ok _
  refine (plain_representative _ _).bind fun f => (plain_resolve r f).bind fun identifier => ?_
  split
  · exact blames_error (Failure.plain_of ..)
  · exact (hentry identifier f).bind fun _ => blames_ok _

theorem plain_resolveFaults (faults : List Fault) : Plain (resolveFaults r faults) :=
  (plain_declarations faults).bind fun _ =>
    (blames_foldlM (plain_addFault r) _ _).bind fun _ => blames_ok _

theorem mild_resolveFaults {faults : List Fault} (h : T → ∀ f ∈ faults, f.Typed) :
    Mild T (resolveFaults r faults) := by
  intro f hf
  refine ⟨plain_resolveFaults r faults f hf, fun ht => ?_⟩
  rcases resolveFaults_cases r (h ht) with ⟨-, rs, hok, -⟩ | ⟨-, e, he, hkind⟩
  · cases hok.symm.trans hf
  · cases he.symm.trans hf
    exact ⟨e, rfl, hkind⟩

end

/-! ### Scripts -/

/-- The entry that a step logs. -/
def Step.note? : Step → Option Event
  | .note e => some e
  | _ => none

namespace Script

variable {α β : Type} {T : Prop} {x : Script α} {f : α → Script β}

/-- The script logs plain entries, and if it has no result, then for a mild failure. -/
structure Mild (T : Prop) (x : Script α) : Prop where
  entries : ∀ e ∈ x.steps.filterMap Step.note?, e.Plain
  failure : SoapStubs.Mild T x.result

theorem mild_lift {r : Except Failure α} (h : SoapStubs.Mild T r) : (lift r).Mild T :=
  ⟨fun _ he => absurd he List.not_mem_nil, h⟩

theorem mild_pure (a : α) : (pure a : Script α).Mild T := mild_lift (blames_ok a)

theorem mild_take {step : Step} (h : step.note? = none) : (take step).Mild T := by
  refine ⟨fun e he => ?_, blames_ok ()⟩
  rw [filterMap_take, h] at he
  cases he

theorem mild_bind (hx : x.Mild T) (hf : ∀ a, x.result = .ok a → (f a).Mild T) :
    (x >>= f).Mild T := by
  cases h : x.result with
  | error e =>
    rw [bind_of_error h]
    exact ⟨hx.entries, blames_error (hx.failure e h)⟩
  | ok a =>
    rw [bind_of_ok h]
    refine ⟨fun e he => ?_, (hf a h).failure⟩
    rw [List.filterMap_append] at he
    exact (List.mem_append.1 he).elim (hx.entries e) ((hf a h).entries e)

theorem mild_each {l : List α} (h : ∀ a ∈ l, (f a).Mild T) : (each f l).Mild T := by
  induction l with
  | nil => exact mild_pure _
  | cons a l ih =>
    obtain ⟨ha, hl⟩ := List.forall_mem_cons.1 h
    exact mild_bind ha fun _ _ => mild_bind (ih hl) fun _ _ => mild_pure _

end Script

section

open Script

variable {T : Prop} (r : Resolver)

theorem mild_beanScript {m : BeanMessage} (h : T → m.Typed) (key : String) :
    (beanScript r key m).Mild T := by
  have hname (ht : T) : (Named.qualifiedName m.beanName).IsName := by
    rw [(h ht).beanName.qualifiedName_eq]
    exact (h ht).beanName
  rw [beanScript]
  split
  · exact mild_lift (blames_error ⟨Failure.plain_of .., fun _ => ⟨_, rfl, rfl⟩⟩)
  · refine mild_bind (mild_lift (mild_resolve r hname)) fun bean _ => ?_
    refine mild_bind (mild_take rfl) fun _ _ => mild_bind (mild_take rfl) fun _ _ => ?_
    refine mild_bind (mild_lift (mild_propertyBindings r (fun ht => (h ht).children) _))
      fun _ _ => ?_
    exact mild_bind (mild_take rfl) fun _ _ => mild_pure _

theorem mild_messagesScript {ms : List Message} (h : T → ∀ m ∈ ms, m.Typed) (key : String)
    (found : MessageOutcome) : (messagesScript r key found ms).Mild T := by
  induction ms generalizing found with
  | nil => exact mild_pure _
  | cons m ms ih =>
    have ih := ih fun ht m hm => h ht m (List.mem_cons_of_mem _ hm)
    have hm (ht : T) : m.Typed := h ht m List.mem_cons_self
    cases m with
    | fault f =>
      refine mild_bind (mild_lift (mild_resolve r fun ht => ?_)) fun _ _ => ih _
      exact Fault.Typed.qualifiedName (hm ht)
    | bean m => exact mild_bind (mild_beanScript r hm key) fun _ _ => ih _

theorem mild_operationScript {o : Operation} (h : T → o.Typed) (endpoint : String) :
    (operationScript r endpoint o).Mild T := by
  have hparameters (key : String) (ps : List Parameter) (i : Nat) :
      (parametersScript key i ps).Mild T := by
    induction ps generalizing i with
    | nil => exact mild_pure _
    | cons p ps ih => exact mild_bind (mild_take rfl) fun _ _ => ih (i + 1)
  refine mild_bind (mild_messagesScript r (fun ht => (h ht).messages) _ {}) fun found _ => ?_
  refine mild_bind (mild_take rfl) fun _ _ => mild_bind (mild_take rfl) fun _ _ => ?_
  refine mild_bind (mild_take rfl) fun _ _ => ?_
  split
  · refine mild_bind (mild_take rfl) fun _ _ => ?_
    exact mild_bind (hparameters _ _ 0) fun _ _ => mild_pure _
  · exact mild_bind (hparameters _ _ 0) fun _ _ => mild_pure _

theorem mild_endpointScript {e : Endpoint} (h : T → e.Typed) : (endpointScript r e).Mild T := by
  refine mild_bind (mild_lift (mild_resolve r fun ht => (h ht).qualifiedName)) fun id _ => ?_
  refine mild_bind (mild_take rfl) fun _ _ => mild_bind (mild_take rfl) fun _ _ => ?_
  refine mild_bind (mild_each fun o ho => ?_) fun _ _ => mild_pure _
  exact mild_operationScript r (fun ht => (h ht).operations o ho) id

theorem mild_faultScript {f : ResolvedFault} (h : T → f.fault.Typed) :
    (faultScript r f).Mild T := by
  have hcarrier : (carrierScript r f).Mild T :=
    mild_bind (mild_take rfl) fun _ _ =>
      mild_bind (mild_lift (mild_propertyBindings r (fun ht => (h ht).children) _)) fun _ _ =>
        mild_take rfl
  rw [faultScript]
  split
  · exact mild_bind hcarrier fun _ _ => mild_take rfl
  · exact mild_take rfl

theorem mild_typeScript {t : TypeDefinition} (h : T → t.Typed) (m : ServiceModel) :
    (typeScript r m t).Mild T := by
  refine mild_bind (mild_lift (mild_resolve r fun ht => (h ht).qualifiedName)) fun id _ => ?_
  have hbindings : Mild T (typeBindings r ⟨id, t, m.rootElementOf t⟩ .legacy) :=
    mild_typeBindings r h .legacy
  split
  · refine mild_bind (mild_take rfl) fun _ _ => mild_bind (mild_lift hbindings) fun _ _ => ?_
    exact mild_bind (mild_take rfl) fun _ _ => mild_pure _
  · refine mild_bind (mild_lift hbindings) fun _ _ => ?_
    exact mild_bind (mild_take rfl) fun _ _ => mild_pure _

theorem mild_faultsLogged {faults : List Fault} (h : T → ∀ f ∈ faults, f.Typed) :
    (Script.logged (resolveFaultsLogged r faults)).Mild T := by
  cases hresult : resolveFaults r faults with
  | error e =>
    rw [resolveFaultsLogged, hresult]
    exact mild_lift (blames_error (mild_resolveFaults r h e hresult))
  | ok resolved =>
    rw [resolveFaultsLogged, hresult]
    refine ⟨fun e he => ?_, blames_ok resolved⟩
    have hentry : (faultsResolved resolved).Plain :=
      ⟨show "faults_resolved".toList.contains '.' = false by decide, rfl, rfl⟩
    rwa [List.mem_singleton.1 he]

/-- The faults of a typed model that are resolved are faults of the model. -/
theorem resolvedFault_mem {r : Resolver} {fs : List Fault} {faults : List ResolvedFault}
    (htyped : ∀ f ∈ fs, f.Typed) (h : resolveFaults r fs = .ok faults) :
    ∀ f ∈ faults, f.fault ∈ fs := by
  intro f hf
  obtain ⟨d, hmem, rfl⟩ := exists_entry_of_resolved htyped h f hf
  exact hmem

/-- **How the common phase fails**: it names no phase, and a typed model is at worst
inconsistent. -/
theorem mild_commonScript (m : ServiceModel) : (commonScript r m).Mild m.Typed := by
  refine mild_bind (mild_each fun e he => mild_endpointScript r fun hm => hm.endpoints e he)
    fun endpoints _ => ?_
  refine mild_bind (mild_faultsLogged r fun hm => hm.faults) fun faults hok => ?_
  refine mild_bind (mild_each fun f hf => mild_faultScript r fun hm => ?_) fun _ _ => ?_
  · exact hm.faults _ (resolvedFault_mem hm.faults (resolveFaultsLogged_ok hok) f hf)
  refine mild_bind (mild_each fun t ht => mild_typeScript r (fun hm => hm.types t ht) m)
    fun types _ => ?_
  refine mild_bind (mild_each fun e he => ?_) fun _ _ => mild_pure _
  refine mild_bind (mild_lift (mild_resolve r fun hm => ?_)) fun _ _ => mild_take rfl
  exact (hm.rootElements e he).qualifiedName

/-- The operations and the types that were planned are typed. -/
structure CommonPlan.Typed (plan : CommonPlan) : Prop where
  operations : ∀ e ∈ plan.endpoints, ∀ o ∈ e.operations, o.operation.Typed
  types : ∀ t ∈ plan.types, t.definition.Typed

/-- **How a variant phase fails**: it names no phase, and the typed plans of endpoints whose
services were recorded are at worst inconsistent. -/
theorem mild_variantScript (v : Variant) (d : Deployment) (common : Registry) (plan : CommonPlan) :
    (variantScript r v d common plan).Mild (plan.Typed ∧ ∀ e ∈ plan.endpoints,
      common.lookup (.text e.identifier, .service) ≠ none) := by
  refine mild_bind (mild_each fun e he => ?_) fun _ _ => ?_
  · refine mild_bind (mild_lift (mild_endpointBindings r (fun ht => ht.1.operations e he) v))
      fun _ _ => ?_
    refine mild_bind (mild_take rfl) fun _ _ => mild_bind (mild_take rfl) fun _ _ => ?_
    split
    · rename_i hnone
      exact mild_lift (blames_error ⟨trivial, fun ht => absurd hnone (ht.2 e he)⟩)
    · exact mild_take rfl
  refine mild_bind (mild_each fun f _ => mild_take rfl) fun _ _ => ?_
  refine mild_bind (mild_each fun t ht => ?_) fun _ _ => mild_pure _
  exact mild_bind (mild_lift (mild_typeBindings r (fun h => h.1.types t ht) v)) fun _ _ =>
    mild_take rfl

end

end SoapStubs
