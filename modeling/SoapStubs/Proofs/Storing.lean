import SoapStubs.Proofs.Closure
import SoapStubs.Proofs.Contents
import SoapStubs.Proofs.Overwriting
import SoapStubs.Proofs.Variants

/-!
# Storing what was generated

The binding metadata of a variant is stored as JSON, which has no form for dates, bytes, sets and
very long integers.  Descriptors take such values from the document of the model as they are.

* `commonScript_storable` and `variantScript_storable`: if all that descriptors take from the model
  can be written, then so can every descriptor that the phases record;
* `Generator.writable_variant`: then the metadata of a variant can be written as well;
* `Metadata.Storing` says how storing ends: it settles if the metadata can be written, and else it
  leaves a file behind;
* `Generator.storing_generated` is the theorem.
-/

namespace SoapStubs

open Json (writable_text writable_bool writable_ofOption)

/-! ### Descriptors -/

theorem SoapBinding.writable_descriptor (b : SoapBinding) : b.descriptor.Writable := by
  simp [Descriptor.Writable, descriptor, Descriptor.entries, Labelled.value, writable_text]

theorem Endpoint.Writable.descriptor {e : Endpoint} (h : e.Writable) : e.descriptor.Writable := by
  have hport : Json.Writable e.portType := h.portTypeName.orElse (writable_text _)
  have hservice : Json.Writable e.service := h.serviceName.orElse (writable_text _)
  simp [Descriptor.Writable, Endpoint.descriptor, Descriptor.entries, writable_text, hport,
    hservice, h.targetNamespace]

theorem Result.Writable.descriptor {r : Result} (h : r.Writable) : r.descriptor.Writable := by
  simp [Descriptor.Writable, Result.descriptor, Descriptor.entries, writable_bool, h.name,
    h.partName, h.targetNamespace]

theorem Parameter.Writable.descriptor {p : Parameter} (h : p.Writable) :
    p.descriptor.Writable := by
  simp [Descriptor.Writable, Parameter.descriptor, Descriptor.entries, Labelled.value,
    writable_text, writable_bool, h.elementName, h.partName]

theorem BeanMessage.Writable.descriptor {m : BeanMessage} (h : m.Writable) (key : String) :
    (m.descriptor key).Writable := by
  have hchildren : Json.Writable (.tuple (m.children.map (·.elementName))) :=
    Json.writable_tuple.2 (List.forall_mem_map.2 h.children)
  simp [Descriptor.Writable, BeanMessage.descriptor, Descriptor.entries, writable_text,
    h.elementName, h.space, hchildren]

theorem Operation.Writable.descriptor {o : Operation} (h : o.Writable)
    (request response : Option String) :
    (Descriptor.operation o.wireName o.action (.ofOption request)
      (.ofOption response)).Writable := by
  have hwire : Json.Writable o.wireName := h.operationName.orElse h.name
  simp [Descriptor.Writable, Descriptor.entries, writable_ofOption, hwire, h.action]

theorem RootElement.Writable.descriptor {e : RootElement} (h : e.Writable) :
    (Descriptor.rootElement e.name e.space).Writable := by
  simp [Descriptor.Writable, Descriptor.entries, h.name, h.space]

/-! ### Faults -/

theorem Gives.bare {α : Type} {P : α → Prop} {x : Except Cause α} (h : Gives P x) :
    Gives P (SoapStubs.bare x) := by
  cases x with
  | error c => exact .error _
  | ok a => exact .ok (h a rfl)

theorem gives_leastM {ε α : Type} {P : α → Prop} {less : α → α → Except ε Bool} {first : α}
    {rest : List α} (hfirst : P first) (hrest : ∀ a ∈ rest, P a) :
    Gives P (leastM less first rest) := by
  induction rest generalizing first with
  | nil => exact .ok hfirst
  | cons a rest ih =>
    obtain ⟨ha, hrest⟩ := List.forall_mem_cons.1 hrest
    refine .andThen fun isLess => ih ?_ hrest
    split
    · exact ha
    · exact hfirst

section

variable {r : Resolver} {fs : List Fault}

theorem gives_declarations (h : ∀ f ∈ fs, f.Writable) :
    Gives (fun groups => ∀ g ∈ groups, ∀ f ∈ g.2, Fault.Writable f) (declarations fs) := by
  refine .foldlM nofun fun groups f hf hgroups => ?_
  split
  · exact .error _
  · exact .andThen fun key => .ok (Ordered.forall_mem_push hgroups (h f hf))

theorem gives_representative {name : Value} (h : ∀ f ∈ fs, f.Writable) :
    Gives Fault.Writable (representative name fs) := by
  refine .andThen fun _ => ?_
  split
  · exact .error _
  · cases fs with
    | nil => exact .error _
    | cons f fs =>
      obtain ⟨hf, hfs⟩ := List.forall_mem_cons.1 h
      exact (gives_leastM hf hfs).bare

theorem gives_resolveFault {identifier : String} {f : Fault} (h : f.Writable) :
    Gives (fun f : ResolvedFault => f.descriptor.Writable) (resolveFault r identifier f) := by
  unfold resolveFault
  split
  · split
    · exact .error _
    · refine .andThen fun carrier => .ok ?_
      simp [Descriptor.Writable, ResolvedFault.descriptor, Descriptor.entries, writable_text,
        writable_bool, h.elementName, h.space]
  · rename_i bean hbean
    have hb := h.explicitBean bean hbean
    refine .andThen fun carrier => .ok ?_
    simp [Descriptor.Writable, ResolvedFault.descriptor, Descriptor.entries, writable_text,
      writable_bool, hb.name, hb.space]

theorem gives_addFault {found : Ordered String (Value × ResolvedFault)}
    {group : Value × List Fault} (hfound : ∀ e ∈ found, e.2.2.descriptor.Writable)
    (h : ∀ f ∈ group.2, f.Writable) :
    Gives (fun found => ∀ e ∈ found, e.2.2.descriptor.Writable) (addFault r found group) := by
  refine (gives_representative h).bind fun fault hfault => .andThen fun identifier => ?_
  split
  · exact .error _
  · refine (gives_resolveFault hfault).bind fun resolved hresolved => .ok fun e he => ?_
    rcases Ordered.mem_put he with he | rfl | ⟨heq, -⟩
    · exact hfound e he
    · exact hresolved
    · exact heq ▸ hresolved

theorem gives_resolveFaults (h : ∀ f ∈ fs, f.Writable) :
    Gives (fun faults => ∀ f ∈ faults, f.descriptor.Writable) (resolveFaults r fs) := by
  refine (gives_declarations h).bind fun groups hgroups => ?_
  refine (Gives.foldlM nofun fun found group hgroup hfound =>
    gives_addFault hfound (hgroups group hgroup)).bind fun found hfound => .ok fun f hf => ?_
  obtain ⟨e, he, rfl⟩ := List.mem_map.1 (List.mem_mergeSort.1 hf)
  obtain ⟨p, hp, rfl⟩ := List.mem_map.1 he
  exact hfound p hp

end

/-! ### Phases -/

section

open Script

variable {r : Resolver} {m : ServiceModel} {key : String}

/-- The step records no descriptor that cannot be written. -/
def Step.Storable : Step → Prop
  | .record _ d => d.Writable
  | _ => True

theorem beanScript_storable {b : BeanMessage} (hb : b.Writable) :
    (beanScript r key b).Every Step.Storable := by
  unfold beanScript
  split
  · exact every_lift _
  refine every_bind (every_lift _) fun bean _ => every_bind (every_take trivial) fun _ _ => ?_
  refine every_bind (every_take (hb.descriptor key)) fun _ _ => ?_
  exact every_bind (every_lift _) fun _ _ => every_bind (every_take trivial) fun _ _ => every_pure _

theorem operationScript_storable {o : Operation} (ho : o.Writable) :
    (operationScript r key o).Every Step.Storable := by
  have hparameters (key : String) : (parametersScript key 0 o.parameters).Every Step.Storable :=
    parametersScript_every fun p hp _ => (ho.parameters p hp).descriptor
  unfold operationScript
  refine every_bind (messagesScript_every fun b hb => ?_) fun found _ => ?_
  · exact beanScript_storable (ho.messages _ hb)
  refine every_bind (every_take o.binding.writable_descriptor) fun _ _ => ?_
  refine every_bind (every_take (ho.descriptor _ _)) fun _ _ => ?_
  refine every_bind (every_take ho.result.descriptor) fun _ _ => ?_
  split
  · refine every_bind (every_take nofun) fun _ _ => ?_
    exact every_bind (hparameters _) fun _ _ => every_pure _
  · exact every_bind (hparameters _) fun _ _ => every_pure _

theorem endpointScript_storable {e : Endpoint} (he : e.Writable) :
    (endpointScript r e).Every Step.Storable := by
  refine every_bind (every_lift _) fun id _ => every_bind (every_take he.descriptor) fun _ _ => ?_
  refine every_bind (every_take e.binding.writable_descriptor) fun _ _ => ?_
  exact every_bind (every_each fun o ho => operationScript_storable (he.operations o ho))
    fun _ _ => every_pure _

theorem faultScript_storable {f : ResolvedFault} (hf : f.descriptor.Writable) :
    (faultScript r f).Every Step.Storable := by
  unfold faultScript
  split
  · refine every_bind ?_ fun _ _ => every_take hf
    refine every_bind (every_take trivial) fun _ _ => ?_
    exact every_bind (every_lift _) fun _ _ => every_take trivial
  · exact every_take hf

theorem ServiceModel.Writable.faults (hm : m.Writable) : ∀ f ∈ m.faults, f.Writable := by
  intro f hf
  obtain ⟨e, he, hf⟩ := List.mem_flatMap.1 hf
  obtain ⟨o, ho, hf⟩ := List.mem_flatMap.1 hf
  obtain ⟨message, hmessage, hfault⟩ := List.mem_filterMap.1 hf
  have hwritable := ((hm.endpoints e he).operations o ho).messages message hmessage
  cases message with
  | bean b => cases hfault
  | fault f' =>
    obtain rfl := Option.some.inj hfault
    exact hwritable

theorem commonScript_storable (hm : m.Writable) : (commonScript r m).Every Step.Storable := by
  refine every_bind (every_each fun e he => endpointScript_storable (hm.endpoints e he))
    fun endpoints _ => ?_
  refine every_bind (every_logged fun _ => trivial) fun faults hfaults => ?_
  have hwritable := gives_resolveFaults hm.faults _ (resolveFaultsLogged_ok hfaults)
  refine every_bind (every_each fun f hf => faultScript_storable (hwritable f hf)) fun _ _ => ?_
  refine every_bind (every_each fun t _ => typeScript_every (fun _ _ => trivial)
    fun _ _ _ _ => trivial) fun types _ => ?_
  refine every_bind (every_each fun e he => ?_) fun _ _ => every_pure _
  exact every_bind (every_lift _) fun _ _ => every_take (hm.rootElements e he).descriptor

end

/-! ### Registries -/

namespace Registry

variable {r r' : Registry} {slot : Slot} {d : Descriptor} {writes : List Write}

theorem writable_iff_slots : r.Writable ↔ ∀ e ∈ r.slots, Json.Writable e.1.1 ∧ e.2.Writable := by
  rw [Registry.Writable, records_eq, List.forall_mem_map]

theorem writable_empty : empty.Writable := by
  intro record hrecord
  cases hrecord

theorem exists_mem_slots_of_lookup (h : r.lookup slot = some d) : ∃ e ∈ r.slots, e.2 = d := by
  induction r with
  | base own =>
    obtain ⟨k, hmem, -⟩ := Ordered.exists_mem_of_get?_eq_some h
    exact ⟨_, hmem, rfl⟩
  | overlay parent own ih =>
    rcases Option.or_eq_some_iff.1 h with h | ⟨-, h⟩
    · obtain ⟨k, hmem, -⟩ := Ordered.exists_mem_of_get?_eq_some h
      exact ⟨_, List.mem_append_right _ hmem, rfl⟩
    · obtain ⟨e, he, heq⟩ := ih h
      exact ⟨e, List.mem_append_left _ he, heq⟩

theorem Writable.lookup (h : r.Writable) (hd : r.lookup slot = some d) : d.Writable := by
  obtain ⟨e, he, rfl⟩ := exists_mem_slots_of_lookup hd
  exact (writable_iff_slots.1 h e he).2

/-- A descriptor that can be written may come in under a text. -/
theorem Writable.record {key : String} {c : Option Conflict} (h : r.Writable) (hd : d.Writable)
    (hr : r.record (.text key) d = .ok (r', c)) : r'.Writable := by
  rw [writable_iff_slots, slots_eq] at h ⊢
  obtain ⟨-, -, -, -, rfl⟩ := record_inv hr
  rw [inherited_withOwn, own_withOwn]
  intro e he
  rcases List.mem_append.1 he with he | he
  · exact h e (List.mem_append_left _ he)
  · rcases Ordered.mem_put he with he | rfl | ⟨heq, -, b, hb⟩
    · exact h e (List.mem_append_right _ he)
    · exact ⟨writable_text key, hd⟩
    · exact ⟨(h _ (List.mem_append_right _ hb)).1, heq ▸ hd⟩

theorem Writable.writeAll (h : r.Writable) (hw : ∀ w ∈ writes, w.2.Writable)
    (hr : r.writeAll writes = .ok r') : r'.Writable := by
  induction writes using List.reverseRecOn generalizing r' with
  | nil =>
    obtain rfl := Except.ok.inj hr
    exact h
  | append_singleton writes w ih =>
    obtain ⟨mid, conflict, hmid, hrecord⟩ := writeAll_concat_inv hr
    exact (ih (fun w' hw' => hw w' (List.mem_append_left _ hw')) hmid).record
      (hw w (List.mem_append_right _ (List.mem_singleton.2 rfl))) hrecord

end Registry

theorem Script.Every.writes {α : Type} {x : Script α} (h : x.Every Step.Storable) :
    ∀ w ∈ x.writes, w.2.Writable := by
  intro w hw
  obtain ⟨step, hstep, hwrite⟩ := List.mem_filterMap.1 hw
  have hstorable := h step hstep
  cases step with
  | record key d =>
    obtain rfl := Option.some.inj hwrite
    exact hstorable
  | declare | emit | note => cases hwrite

/-- What the variant phase records for an implementation is in the common registry. -/
theorem variantScript_storable {r : Resolver} {v : Variant} {d : Deployment} {common : Registry}
    {plan : CommonPlan} (h : common.Writable) :
    (variantScript r v d common plan).Every Step.Storable := by
  refine Script.every_bind (Script.every_each fun e _ => ?_) fun _ _ => ?_
  · refine Script.every_bind (Script.every_lift _) fun _ _ => ?_
    refine Script.every_bind (Script.every_take trivial) fun _ _ => ?_
    refine Script.every_bind (Script.every_take trivial) fun _ _ => ?_
    split
    · exact Script.every_lift _
    · rename_i service hservice
      exact Script.every_take (h.lookup hservice)
  refine Script.every_bind (Script.every_each fun f _ => Script.every_take trivial) fun _ _ => ?_
  refine Script.every_bind (Script.every_each fun t _ => ?_) fun _ _ => Script.every_pure _
  exact Script.every_bind (Script.every_lift _) fun _ _ => Script.every_take trivial

namespace Generator

variable {g : Generator} {c : CommonResult} {v : Variant} {r : VariantResult} {s s₁ u u₁ : Session}

theorem writable_common (hm : g.model.Writable) (hc : g.runCommon.Returns s c s₁) :
    c.registry.Writable := by
  obtain ⟨registry, hwrites, hregistry, -⟩ := runCommon_inv hc
  have hwritable : registry.Writable :=
    Registry.writable_empty.writeAll (commonScript_storable hm).writes hwrites
  rw [hregistry, Registry.Writable, Registry.records_freeze]
  exact hwritable

/-- **The metadata of a variant can be written** if all that descriptors take from the model can. -/
theorem writable_variant (hm : g.model.Writable) (hc : g.runCommon.Returns s c s₁)
    (hr : (g.runVariant v (some c)).Returns u r u₁) : r.registry.Writable := by
  have hcommon := writable_common hm hc
  obtain ⟨upper, b, u₂, u₃, habove, hplay, rfl, -⟩ := runVariant_inv hr
  have hupper : upper.Writable := by
    rw [Registry.writable_iff_slots, Registry.slots_above habove, ← Registry.writable_iff_slots]
    exact hcommon
  exact hupper.writeAll (variantScript_storable hcommon).writes
    (Site.performAll_registry (Site.play_returns.1 hplay).2)

end Generator

/-! ### How storing ends -/

namespace Metadata

open FileTree

variable {chance : Chance} {t t₁ : FileTree} {q : Request} {man : Manifest} {r : Registry}

/-- Writing ends with both files or with an error about the metadata, and every other file is as it
was. -/
structure StoreSettles (t : FileTree) (q : Request) (done : FileTree × Logged Files) : Prop where
  /-- The files are there, or it is an error about the metadata. -/
  result : done.2.result = .ok q.files ∨
    ∃ e, done.2.result = .error (.error e) ∧ e.kind = .persistence
  /-- Every other file is as it was, and there is no other file. -/
  tidy : ∀ l, done.1.locate q.files.types ≠ .ok l → done.1.locate q.files.bindings ≠ .ok l →
    done.1.fileAt l = t.fileAt l

/-- Writing ends with what JSON objects to, and a staged text is left where nothing was. -/
structure StoreEscapes (chance : Chance) (t : FileTree) (q : Request) (text : String)
    (done : FileTree × Logged Files) : Prop where
  /-- It is no error of the library. -/
  result : ∃ cause, Json.IsRefusal cause ∧ done.2.result = .error (.bare cause)
  /-- The staged file is left. -/
  left : ∃ l, t.locate (chance.name t q.files.types ".tmp") = .ok l ∧ t.lookup l = none ∧
    done.1.lookup = Function.update t.lookup l (some (.file (.text text)))

/-- How the writing of a registry and a list of types into a directory ends. -/
structure Storing (chance : Chance) (t : FileTree) (q : Request) (man : Manifest) (r : Registry) :
    Prop where
  /-- It settles if the registry has a form in JSON, and there is room for its document. -/
  settles : r.Writable → Fits r q.run q.variant → StoreSettles t q (persist chance t q)
  /-- It succeeds if, besides, nothing blocks either file. -/
  succeeds : r.Writable → Fits r q.run q.variant → Nameable chance t q.files →
    ¬Blocked chance t 0 q.files.types → ¬Blocked chance t 1 q.files.bindings →
    (persist chance t q).2.result = .ok q.files
  /-- It settles if the list of types cannot be staged. -/
  refused : ∀ t₁ cause, stage chance t 0 q.files.types man.toLines = (t₁, .error cause) →
    StoreSettles t q (persist chance t q)
  /-- It leaves the list of types behind if that is staged and the registry cannot be written. -/
  escapes : ¬(r.Writable ∧ Fits r q.run q.variant) → ∀ t₁ types,
    stage chance t 0 q.files.types man.toLines = (t₁, .ok types) →
    StoreEscapes chance t q man.toLines (persist chance t q)

section

variable (hman : q.manifest = some man) (hreg : q.registry = some r) (law : chance.Lawful)
  (hdir : t.isDirectory q.directory = true) (hrun : '\x00' ∉ q.run.toList)

include hman hreg law

theorem settles_of_error {e : Error} (h : (persist chance t q).2.result = .error (.error e)) :
    StoreSettles t q (persist chance t q) := by
  obtain ⟨hkind, hfiles⟩ := persist_undone hman hreg law h
  exact ⟨.inr ⟨e, h, hkind⟩, fun l _ _ => congrFun hfiles l⟩

include hdir

theorem settles_of_isFile {u : FileTree} {cause : Cause}
    (hw : writeBoth chance t q.files man r q.run q.variant = (u, .error cause))
    (hfile : IsFile cause) : StoreSettles t q (persist chance t q) := by
  obtain ⟨problem, path, rfl⟩ := hfile
  have hdone := persist_of_writeBoth_error hman hreg (makeDirectories_of_isDirectory hdir) hw
  exact settles_of_error hman hreg law (congrArg (·.2.result) hdone)

theorem escapes_of_check {cause : Cause} {types : Staged}
    (hcheck : Json.check (document r (.text q.run) (.ofOption q.variant)) = .error cause)
    (hstage : stage chance t 0 q.files.types man.toLines = (t₁, .ok types)) :
    StoreEscapes chance t q man.toLines (persist chance t q) := by
  have hw : writeBoth chance t q.files man r q.run q.variant = (t₁, .error cause) := by
    simp only [writeBoth, hstage, hcheck]
  have hdone := persist_of_writeBoth_error hman hreg (makeDirectories_of_isDirectory hdir) hw
  obtain ⟨rfl, -, -, l, hl, hnone, hlookup⟩ := stage_ok law hstage
  rw [hdone]
  have hrefusal := Json.check_error hcheck
  exact ⟨⟨cause, hrefusal, congrArg Except.error (placeFailure_of_isRefusal hrefusal _)⟩, l, hl,
    hnone, hlookup⟩

include hrun

theorem storing : Storing chance t q man r := by
  have hmade := makeDirectories_of_isDirectory hdir
  have hclean : q.directory.Clean := (pathProblem?_eq_none_iff.1 (makeDirectories_inv hmade).1).1
  have hcheck := @check_document_iff r q.run q.variant
  constructor
  case settles =>
    intro hr hfits
    rcases hw : writeBoth chance t q.files man r q.run q.variant with ⟨u, cause | ⟨⟩⟩
    · exact settles_of_isFile hman hreg law hdir hw
        (writeBoth_error_file law hclean hrun (hcheck.2 ⟨hr, hfits⟩) hw)
    · have hdone := persist_of_writeBoth_ok hman hreg hmade hw
      have hresult : (persist chance t q).2.result = .ok q.files := congrArg (·.2.result) hdone
      exact ⟨.inl hresult, (persist_written hman hreg law hresult).2.other⟩
  case succeeds =>
    exact fun hr hfits hname h₀ h₁ =>
      persist_succeeds hman hreg law hmade (hcheck.2 ⟨hr, hfits⟩) hname h₀ h₁
  case refused =>
    -- The list of types is staged before anyone looks at the document.
    intro t₁ cause hstage
    refine settles_of_isFile hman hreg law hdir (u := t₁) ?_
      (stage_error_file law (clean_files hclean hrun).1 hstage)
    simp only [writeBoth, hstage]
  case escapes =>
    intro hr t₁ types hstage
    cases hdocument : Json.check (document r (.text q.run) (.ofOption q.variant)) with
    | ok _ => exact absurd (hcheck.1 hdocument) hr
    | error cause => exact escapes_of_check hman hreg law hdir hdocument hstage

end

end Metadata

namespace Generator

/-- **Storing what was generated from a document.**  If both phases return for a model that was
loaded, then storing the metadata of the variant settles, unless it is nested too deep or has a
value that JSON has no form for; there is none if the document has none, and that of a JSON file
never has. -/
theorem storing_generated {g : Generator} {files : FileTree} {path : Path} {c : CommonResult}
    {v : Variant} {r : VariantResult} {s s₁ u u₁ : Session} {chance : Metadata.Chance}
    {t : FileTree} {dir : Path} (hload : ServiceModel.load files path = .ok g.model)
    (hc : g.runCommon.Returns s c s₁) (hr : (g.runVariant v (some c)).Returns u r u₁)
    (law : chance.Lawful) (hdir : t.isDirectory dir = true) (hrun : '\x00' ∉ c.runId.toList) :
    (∃ document, ServiceModel.documentIn files path = .ok document ∧
      (path.suffix = ".json" → Json.Writable document) ∧
      (Json.Writable document → r.registry.Writable)) ∧
    Metadata.Storing chance t (storeRequest r c dir) c.manifest r.registry := by
  obtain ⟨document, hdocument, hmodel⟩ := ServiceModel.load_inv hload
  refine ⟨⟨document, hdocument, fun hjson => ServiceModel.writable_documentIn_json hjson hdocument,
    fun hwritable => ?_⟩, Metadata.storing rfl rfl law hdir hrun⟩
  exact writable_variant (ServiceModel.writable_of_document hwritable hmodel) hc hr

def loadedService (model : ServiceModel) : Generator where
  model := model
  settings := { runId := "7", outputDir := ⟨"", ["out"]⟩ }
  resolver := ⟨[]⟩
  renderer := .shipped
  compiler := ⟨fun _ => pure { success := true }⟩

/-- A model that is loaded from a file, with the results of the common and the legacy phase. -/
def loadedRun (files : FileTree) (path : Path) :
    Run (ServiceModel × CommonResult × VariantResult) := do
  let model ← Run.lift (ServiceModel.load files path)
  let c ← (loadedService model).runCommon
  let r ← (loadedService model).runVariant .legacy (some c)
  return (model, c, r)

theorem loadedRun_returns {files : FileTree} {path : Path} {model : ServiceModel} {c : CommonResult}
    {r : VariantResult} {s s₂ : Session} (h : (loadedRun files path).Returns s (model, c, r) s₂) :
    ServiceModel.load files path = .ok model ∧ ∃ s₁,
      (loadedService model).runCommon.Returns s c s₁ ∧
      ((loadedService model).runVariant .legacy (some c)).Returns s₁ r s₂ := by
  obtain ⟨model', s₀, hlift, h⟩ := Run.returns_bind.1 h
  obtain ⟨hload, rfl⟩ := Run.returns_lift.1 hlift
  obtain ⟨c', s₁, hc, h⟩ := Run.returns_bind.1 h
  obtain ⟨r', s₃, hr, h⟩ := Run.returns_bind.1 h
  obtain ⟨heq, rfl⟩ := Run.returns_pure.1 h
  cases heq
  exact ⟨hload, s₁, hc, hr⟩

/-- A directory to store to. -/
def classDir : FileTree := ⟨[(["classes"], .directory)]⟩

theorem isDirectory_classDir : classDir.isDirectory ⟨"", ["classes"]⟩ = true := by decide

/-- A desk with a bell, as JSON. -/
def deskJson : FileTree :=
  ⟨[(["m.json"], .file (.text ("\x7b\"endpoints\": [\x7b\"qualified_name\": \"desk.Bell\", " ++
    "\"namespace\": \"urn:desk\"\x7d]\x7d")))]⟩

/-- A desk with a bell whose namespace is a date, as YAML. -/
def datedYaml : FileTree :=
  ⟨[(["m.yaml"], .file (.text
    "endpoints:\n- qualified_name: desk.Bell\n  namespace: 2024-01-01\n"))]⟩

/-- What was generated from JSON is stored. -/
theorem storing_generated_json : ∃ model c r s₁ s₂,
    ServiceModel.load deskJson ⟨"", ["m.json"]⟩ = .ok model ∧
    (loadedService model).runCommon.Returns {} c s₁ ∧
    ((loadedService model).runVariant .legacy (some c)).Returns s₁ r s₂ ∧
    classDir.isDirectory ⟨"", ["classes"]⟩ = true ∧ '\x00' ∉ c.runId.toList ∧
    r.registry.Writable ∧ Metadata.Fits r.registry c.runId (some r.variant.name) ∧
    Metadata.StoreSettles classDir (storeRequest r c ⟨"", ["classes"]⟩)
      (Metadata.persist .none classDir (storeRequest r c ⟨"", ["classes"]⟩)) := by
  obtain ⟨⟨model, c, r⟩, s₂, hrun, hcheck⟩ :=
    @Run.returns_of_check _ (loadedRun deskJson ⟨"", ["m.json"]⟩) {}
      (fun result => !List.contains result.2.1.runId.toList '\x00' &&
        Metadata.Fits result.2.2.registry result.2.1.runId (some result.2.2.variant.name))
      (by decide +kernel)
  obtain ⟨hload, s₁, hc, hr⟩ := loadedRun_returns hrun
  obtain ⟨hnull, hfits⟩ : '\x00' ∉ c.runId.toList ∧
      Metadata.Fits r.registry c.runId (some r.variant.name) := by simpa using hcheck
  have law : Metadata.Chance.none.Lawful := .of_beside rfl
  obtain ⟨⟨document, -, hjson, hregistry⟩, hstoring⟩ :=
    storing_generated hload hc hr law isDirectory_classDir hnull
  have hwritable := hregistry (hjson (by decide))
  exact ⟨model, c, r, s₁, s₂, hload, hc, hr, isDirectory_classDir, hnull, hwritable, hfits,
    hstoring.settles hwritable hfits⟩

/-- **A date cannot be stored**: both phases return for a model with a date, and storing ends with
what JSON objects to and leaves the list of types under a name of its own. -/
theorem storing_date_escapes : ∃ model c r s₁ s₂,
    ServiceModel.load datedYaml ⟨"", ["m.yaml"]⟩ = .ok model ∧
    (loadedService model).runCommon.Returns {} c s₁ ∧
    ((loadedService model).runVariant .legacy (some c)).Returns s₁ r s₂ ∧
    Metadata.StoreEscapes .none classDir (storeRequest r c ⟨"", ["classes"]⟩) c.manifest.toLines
      (Metadata.persist .none classDir (storeRequest r c ⟨"", ["classes"]⟩)) := by
  let q (result : ServiceModel × CommonResult × VariantResult) : Metadata.Request :=
    storeRequest result.2.2 result.2.1 ⟨"", ["classes"]⟩
  obtain ⟨⟨model, c, r⟩, s₂, hrun, hcheck⟩ :=
    @Run.returns_of_check _ (loadedRun datedYaml ⟨"", ["m.yaml"]⟩) {}
      (fun result =>
        !(Json.check (Metadata.document result.2.2.registry (.text (q result).run)
          (.ofOption (q result).variant))).isOk &&
        (Metadata.stage .none classDir 0 (q result).files.types result.2.1.manifest.toLines).2.isOk)
      (by decide +kernel)
  obtain ⟨hload, s₁, hc, hr⟩ := loadedRun_returns hrun
  obtain ⟨hdocument, hstage⟩ := Bool.and_eq_true_iff.1 hcheck
  refine ⟨model, c, r, s₁, s₂, hload, hc, hr, ?_⟩
  cases hdone : Json.check (Metadata.document r.registry (.text (q (model, c, r)).run)
      (.ofOption (q (model, c, r)).variant)) with
  | ok _ =>
    rw [hdone] at hdocument
    cases hdocument
  | error cause =>
    rcases hstaged : Metadata.stage .none classDir 0 (q (model, c, r)).files.types
        c.manifest.toLines with ⟨t₁, cause' | types⟩
    · rw [hstaged] at hstage
      cases hstage
    · exact Metadata.escapes_of_check rfl rfl (.of_beside rfl) isDirectory_classDir hdone hstaged

end Generator

end SoapStubs
