import SoapStubs.Model.File
import SoapStubs.Proofs.JsonReader

/-!
# What a model takes from its document

The names and namespaces of a model come from its document as they are.  So if the document can be
written, they can be written as well.

* `Json.Writable.get`, `Json.Writable.need` and `Json.Writable.elements`: what is looked up in a
  value that can be written can be written;
* `ServiceModel.Writable` says that everything can be written that descriptors take from a model;
* `ServiceModel.writable_of_document`: it holds of a model whose document can be written, as that of
  every JSON file can.
-/

namespace SoapStubs

/-- A map of lists with one more item at a key. -/
theorem Ordered.forall_mem_push {κ α : Type} [BEq κ] {P : α → Prop} {m : Ordered κ (List α)} {k : κ}
    {a : α} (hm : ∀ g ∈ m, ∀ b ∈ g.2, P b) (ha : P a) :
    ∀ g ∈ m.alter k fun found => found.getD [] ++ [a], ∀ b ∈ g.2, P b := by
  have hnew : ∀ b ∈ (m.get? k).getD [] ++ [a], P b := by
    intro b hb
    rcases List.mem_append.1 hb with hb | hb
    · cases hget : m.get? k with
      | none =>
        rw [hget] at hb
        cases hb
      | some bs =>
        rw [hget] at hb
        obtain ⟨k', hmem, -⟩ := Ordered.exists_mem_of_get?_eq_some hget
        exact hm _ hmem b hb
    · exact List.mem_singleton.1 hb ▸ ha
  intro g hg
  rcases Ordered.mem_put hg with h | rfl | ⟨h, -⟩
  · exact hm g h
  · exact hnew
  · exact h ▸ hnew

/-! ### Parts of values -/

namespace Json.Writable

variable {v w default : Value} {key : String}

theorem field? (h : Writable v) (hw : v.field? key = some w) : Writable w := by
  cases v with
  | map es =>
    obtain ⟨e, he, rfl⟩ := Option.map_eq_some_iff.1 hw
    exact (writable_map.1 h e (List.mem_of_find?_eq_some he)).2
  | null | bool | int | float | text | date | moment | bytes | list | tuple | set | loop => cases hw

theorem get (h : Writable v) (hd : Writable default) : Gives Writable (v.get key default) := by
  cases v with
  | map es =>
    refine .ok ?_
    cases hf : (Value.map es).field? key with
    | none => exact hd
    | some x => exact h.field? hf
  | null | bool | int | float | text | date | moment | bytes | list | tuple | set | loop =>
    exact .error _

theorem need (h : Writable v) : Gives Writable (v.need key) := by
  cases v with
  | map es =>
    unfold Value.need
    dsimp only
    split
    · rename_i x hf
      exact .ok (h.field? hf)
    · exact .error _
  | null | bool | int | float | text | date | moment | bytes | list | tuple | set | loop =>
    exact .error _

theorem elements (h : Writable v) : Gives (fun vs => ∀ w ∈ vs, Writable w) v.elements := by
  cases v with
  | list items | tuple items => exact .ok (writable_list.1 h)
  | text s =>
    refine .ok fun w hw => ?_
    obtain ⟨c, -, rfl⟩ := List.mem_map.1 hw
    exact writable_text _
  | map es =>
    refine .ok fun w hw => ?_
    obtain ⟨e, he, rfl⟩ := List.mem_map.1 hw
    exact (writable_map.1 h e he).1.writable
  | bytes | set | loop => cases h
  | null | bool | int | float | date | moment => exact .error _

theorem orElse (h : Writable v) (hw : Writable w) : Writable (v.orElse w) := by
  rw [Value.orElse]
  split
  · exact h
  · exact hw

/-- The entries of a list in a document. -/
theorem entries {α : Type} {P : α → Prop} {f : List Value → Except Cause α} (h : Writable v)
    (hf : ∀ ws, (∀ w ∈ ws, Writable w) → Gives P (f ws)) :
    Gives P (v.get key (.list []) >>= fun w => w.elements >>= f) :=
  (h.get writable_nil).bind fun _ hw => hw.elements.bind hf

end Json.Writable

open Json (writable_null writable_text writable_nil writable_empty)

variable {v : Value}

/-! ### Operations -/

/-- The name and the namespace of the element can be written. -/
structure RootElement.Writable (e : RootElement) : Prop where
  name : Json.Writable e.name
  /-- The namespace. -/
  space : Json.Writable e.space

/-- The names of the parameter can be written. -/
structure Parameter.Writable (p : Parameter) : Prop where
  elementName : Json.Writable p.elementName
  /-- The name of the message part. -/
  partName : Json.Writable p.partName

/-- The names and the namespace of the result can be written. -/
structure Result.Writable (r : Result) : Prop where
  /-- The name of the element. -/
  name : Json.Writable r.name
  /-- The name of the message part. -/
  partName : Json.Writable r.partName
  /-- The namespace of the element. -/
  targetNamespace : Json.Writable r.targetNamespace

/-- The name of the element can be written. -/
def ChildElement.Writable (c : ChildElement) : Prop := Json.Writable c.elementName

/-- The names and the namespace of the message can be written. -/
structure BeanMessage.Writable (m : BeanMessage) : Prop where
  elementName : Json.Writable m.elementName
  /-- The namespace of the element. -/
  space : Json.Writable m.space
  /-- The names of the elements inside. -/
  children : ∀ c ∈ m.children, c.Writable

/-- The name and the namespace of the fault, and those of its carrier, can be written. -/
structure Fault.Writable (f : Fault) : Prop where
  elementName : Json.Writable f.elementName
  /-- The namespace of the element. -/
  space : Json.Writable f.space
  /-- The declared carrier. -/
  explicitBean : ∀ b ∈ f.explicitBean, b.Writable

/-- What the message is can be written. -/
def Message.Writable : Message → Prop
  | .bean m => m.Writable
  | .fault f => f.Writable

/-- The names of the operation and all that belongs to it can be written. -/
structure Operation.Writable (o : Operation) : Prop where
  name : Json.Writable o.name
  /-- The name on the wire. -/
  operationName : Json.Writable o.operationName
  action : Json.Writable o.action
  parameters : ∀ p ∈ o.parameters, p.Writable
  result : o.result.Writable
  messages : ∀ m ∈ o.messages, m.Writable

theorem RootElement.writable_ofValue (h : Json.Writable v) :
    Gives RootElement.Writable (RootElement.ofValue v) :=
  .andThen fun _ => h.need.bind fun _ hname => (h.get (writable_text "")).bind fun _ hspace =>
    .ok ⟨hname, hspace⟩

theorem ChildElement.writable_ofValue (h : Json.Writable v) :
    Gives ChildElement.Writable (ChildElement.ofValue v) :=
  h.need.bind fun _ hname => .andThen fun _ => .andThen fun _ => .ok hname

theorem ChildElement.writable_listOfValue (h : Json.Writable v) :
    Gives (fun cs => ∀ c ∈ cs, ChildElement.Writable c) (ChildElement.listOfValue v) :=
  (h.orElse writable_nil).elements.bind fun _ hws =>
    .mapM fun w hw => ChildElement.writable_ofValue (hws w hw)

theorem Parameter.writable_ofValue (h : Json.Writable v) :
    Gives Parameter.Writable (Parameter.ofValue v) :=
  h.need.bind fun _ hname => (h.get hname).bind fun _ hpart =>
    .andThen fun _ => .andThen fun _ => .andThen fun _ => .andThen fun _ => .andThen fun _ =>
      .ok ⟨hname, hpart⟩

theorem Result.writable_ofValue (h : Json.Writable v) :
    Gives Result.Writable (Result.ofValue v) :=
  (h.get (writable_text "return")).bind fun _ hname => (h.get hname).bind fun _ hpart =>
    (h.get (writable_text "")).bind fun _ hspace =>
      .andThen fun _ => .andThen fun _ => .andThen fun _ => .ok ⟨hname, hpart, hspace⟩

/-- What messages take from their operation can be written. -/
structure MessageScope.Writable (s : MessageScope) : Prop where
  /-- The name on the wire. -/
  operationName : Json.Writable s.operationName
  /-- The namespace of the endpoint. -/
  space : Json.Writable s.space
  parameters : ∀ p ∈ s.parameters, p.Writable
  result : s.result.Writable

namespace BeanMessage

variable {operation space bean : Value} {parameters : List Parameter} {result : Result}

theorem writable_children (hp : ∀ p ∈ parameters, p.Writable) (carried : Parameter → Bool) :
    ∀ c ∈ (parameters.filter carried).map fun p => (⟨p.elementName, p.type⟩ : ChildElement),
      c.Writable := by
  intro c hc
  obtain ⟨p, hmem, rfl⟩ := List.mem_map.1 hc
  exact (hp p (List.mem_filter.1 hmem).1).elementName

theorem writable_rpcInput (ho : Json.Writable operation) (hs : Json.Writable space)
    (hp : ∀ p ∈ parameters, p.Writable) : (rpcInput operation space bean parameters).Writable :=
  ⟨ho, hs, writable_children hp _⟩

theorem writable_rpcOutput (hs : Json.Writable space) (hp : ∀ p ∈ parameters, p.Writable)
    (hr : result.Writable) : (rpcOutput operation space bean result parameters).Writable := by
  refine ⟨writable_text _, hs, fun c hc => ?_⟩
  rcases List.mem_append.1 hc with hc | hc
  · split at hc
    · cases hc
    · obtain rfl := List.mem_singleton.1 hc
      exact hr.name
  · exact writable_children hp _ c hc

end BeanMessage

theorem Message.writable_ofValue {s : MessageScope} (hs : s.Writable) (h : Json.Writable v) :
    Gives Message.Writable (Message.ofValue s v) := by
  unfold Message.ofValue
  refine .andThen fun _ => .andThen fun kind => (h.get hs.space).bind fun space hspace => ?_
  cases kind with
  | requestWrapper =>
    exact (h.get hs.operationName).bind fun _ hname => .andThen fun _ =>
      (h.get writable_null).bind fun _ hvalue =>
        (ChildElement.writable_listOfValue hvalue).bind fun _ hitems =>
          .ok (show BeanMessage.Writable _ from ⟨hname, hspace, hitems⟩)
  | responseWrapper =>
    exact (h.get (writable_text _)).bind fun _ hname => .andThen fun _ =>
      (h.get writable_null).bind fun _ hvalue =>
        (ChildElement.writable_listOfValue hvalue).bind fun _ hitems =>
          .ok (show BeanMessage.Writable _ from ⟨hname, hspace, hitems⟩)
  | rpcInput =>
    exact .andThen fun _ => .andThen fun _ => .ok
      (BeanMessage.writable_rpcInput hs.operationName hspace hs.parameters)
  | rpcOutput =>
    exact .andThen fun _ => .andThen fun _ => .ok
      (BeanMessage.writable_rpcOutput hspace hs.parameters hs.result)
  | fault =>
    refine (h.get writable_null).bind fun explicit hexplicit => .andThen fun name =>
      (h.get (writable_text "")).bind fun element helement => .andThen fun bean => ?_
    -- the rest of a fault is the same with a carrier of its own and without
    have hrest : ∀ found : Option RootElement, (∀ b ∈ found, b.Writable) → Gives Message.Writable
        (v.get "children" >>= fun w => ChildElement.listOfValue w >>= fun children =>
          pure (.fault ⟨name, element, space, bean, found, children⟩)) :=
      fun _ hfound => .andThen fun _ => .andThen fun _ =>
        .ok (show Fault.Writable _ from ⟨helement, hspace, hfound⟩)
    dsimp only
    split
    · exact ((RootElement.writable_ofValue hexplicit).map fun b hb b' hb' =>
        Option.some.inj hb' ▸ hb).bind hrest
    · exact hrest none nofun

theorem Operation.writable_ofValue {space : Value} {package : String} {default : SoapBinding}
    (hspace : Json.Writable space) (h : Json.Writable v) :
    Gives Operation.Writable (Operation.ofValue space package default v) := by
  unfold Operation.ofValue
  refine h.need.bind fun name hname => ?_
  refine h.entries fun _ hvs =>
    (Gives.mapM fun w hw => Parameter.writable_ofValue (hvs w hw)).bind fun parameters hparams => ?_
  refine (h.get writable_null).bind fun _ hv => (Result.writable_ofValue
    (hv.orElse writable_empty)).bind fun result hresult => ?_
  refine (h.get writable_null).bind fun wire hwire => ?_
  have hscope : MessageScope.Writable
      ⟨name, wire.orElse name, space, package, parameters, result⟩ :=
    ⟨hwire.orElse hname, hspace, hparams, hresult⟩
  refine h.entries fun _ hvs =>
    (Gives.mapM fun w hw => Message.writable_ofValue hscope (hvs w hw)).bind
      fun messages hmessages => ?_
  exact (h.get writable_null).bind fun _ hwire => (h.get (writable_text "")).bind fun _ haction =>
    .andThen fun _ => .andThen fun _ => .andThen fun _ =>
      .ok ⟨hname, hwire, haction, hparams, hresult, hmessages⟩

/-! ### Models -/

/-- The names of the endpoint and its operations can be written. -/
structure Endpoint.Writable (e : Endpoint) : Prop where
  targetNamespace : Json.Writable e.targetNamespace
  portTypeName : Json.Writable e.portTypeName
  serviceName : Json.Writable e.serviceName
  operations : ∀ o ∈ e.operations, o.Writable

/-- All that descriptors take from the model can be written. -/
structure ServiceModel.Writable (m : ServiceModel) : Prop where
  endpoints : ∀ e ∈ m.endpoints, e.Writable
  /-- The global elements. -/
  rootElements : ∀ e ∈ m.rootElements, e.Writable

theorem Endpoint.writable_ofValue (h : Json.Writable v) :
    Gives Endpoint.Writable (Endpoint.ofValue v) := by
  unfold Endpoint.ofValue
  refine (h.get (writable_text "")).bind fun space hspace => .andThen fun _ =>
    .andThen fun binding => .andThen fun _ => .andThen fun package => ?_
  refine h.entries fun _ hvs =>
    (Gives.mapM fun w hw => Operation.writable_ofValue hspace (hvs w hw)).bind
      fun operations hoperations => ?_
  exact (h.get writable_null).bind fun _ hport => (h.get writable_null).bind fun _ hservice =>
    .ok ⟨hspace, hport, hservice, hoperations⟩

/-- Reading and grouping keeps what holds of each value that is read. -/
theorem gives_groupM {α : Type} {P : α → Prop} {read : Value → Except Cause α} {key : α → Value}
    {items : List Value} (h : ∀ w ∈ items, Gives P (read w)) :
    Gives (fun groups => ∀ g ∈ groups, ∀ a ∈ g.2, P a) (groupM read key items) :=
  .foldlM nofun fun _ w hw hgroups => (h w hw).bind fun _ ha => .andThen fun _ =>
    .ok (Ordered.forall_mem_push hgroups ha)

theorem ServiceModel.writable_ofValue (h : Json.Writable v) :
    Gives ServiceModel.Writable (ServiceModel.ofValue v) := by
  unfold ServiceModel.ofValue
  refine h.entries fun _ hvs =>
    (gives_groupM fun w hw => Endpoint.writable_ofValue (hvs w hw)).bind fun endpoints hend => ?_
  refine .andThen fun _ => .andThen fun _ => .andThen fun types => ?_
  refine h.entries fun _ hvs =>
    (gives_groupM fun w hw => RootElement.writable_ofValue (hvs w hw)).bind fun roots hroots => ?_
  refine .ok ⟨fun e he => ?_, fun e he => ?_⟩
  · obtain ⟨group, hgroup, he⟩ := List.mem_flatten.1 he
    obtain ⟨p, hp, rfl⟩ := List.mem_map.1 hgroup
    exact hend p hp e he
  · obtain ⟨group, hgroup, he⟩ := List.mem_flatMap.1 he
    obtain ⟨p, hp, rfl⟩ := List.mem_map.1 hgroup
    obtain ⟨⟨k, ⟨⟩⟩, -, rfl⟩ := List.mem_map.1 hp
    change e ∈ (roots.get? k).getD [] at he
    cases hget : roots.get? k with
    | none =>
      rw [hget] at he
      cases he
    | some es =>
      rw [hget] at he
      obtain ⟨k', hmem, -⟩ := Ordered.exists_mem_of_get?_eq_some hget
      exact hroots _ hmem e he

/-! ### Files -/

namespace ServiceModel

variable {t : FileTree} {p : Path} {m : ServiceModel} {document : Value}

def documentIn (t : FileTree) (p : Path) : Except Cause Value := t.readText p >>= documentOf p

/-- A model that is loaded is that of a document. -/
theorem load_inv (h : load t p = .ok m) : ∃ document, documentIn t p = .ok document ∧
    ofValue (document.orElse (.map [])) = .ok m := by
  change (blame p (documentIn t p) >>= fun document =>
    bare (ofValue (document.orElse (.map [])))) = .ok m at h
  cases hd : documentIn t p with
  | error c =>
    rw [hd] at h
    cases c <;> cases h
  | ok document =>
    rw [hd] at h
    change bare (ofValue (document.orElse (.map []))) = .ok m at h
    cases hm : ofValue (document.orElse (.map [])) with
    | error c =>
      rw [hm] at h
      cases h
    | ok m' =>
      rw [hm] at h
      cases h
      exact ⟨document, rfl, hm⟩

/-- The document of a JSON file can be written. -/
theorem writable_documentIn_json (hp : p.suffix = ".json") (h : documentIn t p = .ok document) :
    Json.Writable document := by
  unfold documentIn at h
  cases htext : t.readText p with
  | error c =>
    rw [htext] at h
    cases h
  | ok text =>
    rw [htext] at h
    change documentOf p text = .ok document at h
    rw [documentOf, if_pos hp] at h
    exact Json.writable_of_read h

/-- **All that descriptors take from a model can be written** if its document can. -/
theorem writable_of_document (h : Json.Writable document)
    (hm : ofValue (document.orElse (.map [])) = .ok m) : m.Writable :=
  writable_ofValue (h.orElse writable_empty) m hm

end ServiceModel

end SoapStubs
