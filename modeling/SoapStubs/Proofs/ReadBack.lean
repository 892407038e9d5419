import SoapStubs.Proofs.CommonPhase

/-!
# The common metadata loses nothing

If the common phase of a typed model returns and no descriptor was written over another one, then
everything the model declares can be read from the binding metadata.

* `ReadsOperation`, `ReadsEndpoint` and `ReadsModel` list what can be read;
* `Generator.runCommon_reads_back` is the theorem.

Keys are texts put together from names, so that those of different entities may be the same; all
that is assumed is that there is no conflict.
-/

namespace SoapStubs

/-! ### What can be read -/

variable (registry : Registry) (r : Resolver)

/-- An operation can be read under its method's key. -/
structure ReadsOperation (key : String) (o : Operation) : Prop where
  binding : registry.Reads key (.soapBinding (Labelled.value o.binding.style)
    (Labelled.value o.binding.parameterStyle) (Labelled.value o.binding.use))
  /-- Its name on the wire, its action and the beans of its last messages. -/
  operation : registry.Reads key (.operation o.wireName o.action
    (.ofOption (BeanMessage.last r true o.beanMessages))
    (.ofOption (BeanMessage.last r false o.beanMessages)))
  result : registry.Reads key (.result o.result.name o.result.partName o.result.targetNamespace
    (.bool o.result.header))
  /-- That it has no response. -/
  oneWay : o.oneWay = true → registry.Reads key .oneWay
  /-- Its parameters, by number. -/
  parameter : ∀ (i : Nat) (p : Parameter), o.parameters[i]? = some p →
    registry.Reads (key ++ "." ++ toString i) (.parameter p.elementName p.partName
      (Labelled.value p.mode) (.bool p.header))
  message : ∀ m, .bean m ∈ o.messages → registry.Reads (r.resolveName m.beanName.nameText)
    (.wrapper m.elementName m.space (.text (if m.wrapper.isRequest then "request" else "response"))
      (.text key) (.tuple (m.children.map (·.elementName))))

/-- An endpoint can be read under its identifier. -/
structure ReadsEndpoint (e : Endpoint) : Prop where
  resolved : r.resolve e = .ok (e.identifier r)
  service : registry.Reads (e.identifier r) (.service e.portType
    (.text (e.simpleName ++ "SOAPPort")) e.service e.targetNamespace)
  binding : registry.Reads (e.identifier r) (.soapBinding (Labelled.value e.binding.style)
    (Labelled.value e.binding.parameterStyle) (Labelled.value e.binding.use))
  operations : ∀ o ∈ e.operations,
    ReadsOperation registry r (e.identifier r ++ "." ++ o.name.nameText) o

/-- A global element can be read under the identifier of its class, and the plans of types of that
class have its name and namespace. -/
structure ReadsRootElement (types : List TypePlan) (e : RootElement) : Prop where
  /-- The class has an identifier. -/
  resolved : r.resolve e = .ok (e.identifier r)
  element : registry.Reads (e.identifier r) (.rootElement e.name e.space)
  /-- The plans of the types it is bound to. -/
  bound : ∀ t ∈ types, t.definition.qualifiedName = e.qualifiedName →
    ∃ b, t.rootElement = some b ∧ b.name = e.name ∧ b.space = e.space

/-- All that a model declares can be read from a common result. -/
structure ReadsModel (m : ServiceModel) (c : CommonResult) : Prop where
  endpoints : ∀ e ∈ m.endpoints, ReadsEndpoint c.registry r e
  /-- The faults are those of the model. -/
  resolved : resolveFaults r m.faults = .ok c.plan.faults
  faults : ∀ f ∈ c.plan.faults, c.registry.Reads f.identifier
    (.faultMapping f.elementName f.elementNamespace (.text f.carrier) (.bool f.isImplicit))
  /-- The types are those of the model. -/
  types : c.plan.types.map (·.definition) = m.types
  /-- The global elements. -/
  rootElements : ∀ e ∈ m.rootElements, ReadsRootElement c.registry r c.plan.types e

variable {registry r}

/-! ### Reading what was recorded -/

theorem readsOperation {key : String} {o : Operation}
    (h : ∀ w ∈ o.writesAt r key, registry.Reads w.1 w.2) : ReadsOperation registry r key o := by
  simp only [Operation.writesAt, List.forall_mem_append, List.forall_mem_cons, List.forall_mem_map,
    List.not_mem_nil, false_implies, implies_true, and_true] at h
  obtain ⟨hmessages, ⟨hbinding, hoperation, hresult⟩, hone, hparameters⟩ := h
  refine ⟨hbinding, hoperation, hresult, fun ho => ?_, fun i p hp => ?_, fun m hm => ?_⟩
  · exact hone (key, .oneWay) (by simp [ho])
  · obtain ⟨hi, rfl⟩ := List.getElem?_eq_some_iff.1 hp
    exact hparameters _ (List.mem_mapIdx.2 ⟨i, hi, rfl⟩)
  · exact hmessages m (List.mem_filterMap.2 ⟨_, hm, rfl⟩)

theorem readsEndpoint {e : Endpoint} (hresolved : r.resolve e = .ok (e.identifier r))
    (h : ∀ w ∈ e.writes r, registry.Reads w.1 w.2) : ReadsEndpoint registry r e := by
  simp only [Endpoint.writes, List.forall_mem_append, List.forall_mem_cons, List.not_mem_nil,
    false_implies, implies_true, and_true, List.forall_mem_flatMap] at h
  obtain ⟨⟨hservice, hbinding⟩, hoperations⟩ := h
  exact ⟨hresolved, hservice, hbinding, fun o ho => readsOperation (hoperations o ho)⟩

/-- A type with the class of a global element has a global element of that class in its plan. -/
theorem rootElementOf_inv {m : ServiceModel} (hm : m.Typed) {t : TypeDefinition} {e : RootElement}
    (he : e ∈ m.rootElements) (ht : t.qualifiedName = e.qualifiedName)
    (hn : e.qualifiedName.IsText) :
    ∃ b ∈ m.rootElements, m.rootElementOf t = some b ∧ b.qualifiedName = e.qualifiedName := by
  have hof : m.rootElementOf t = m.rootElements.find? (·.qualifiedName == e.qualifiedName) := by
    rw [ServiceModel.rootElementOf, ht, hn.eq]
  cases hfind : m.rootElements.find? (·.qualifiedName == e.qualifiedName) with
  | none =>
    have hself : (e.qualifiedName == e.qualifiedName) = true := (hn.beq_iff hn).2 rfl
    exact absurd hself (List.find?_eq_none.1 hfind e he)
  | some b =>
    have hb := List.mem_of_find?_eq_some hfind
    have hsame := List.find?_some hfind
    refine ⟨b, hb, hof.trans hfind, ?_⟩
    exact ((hm.rootElements b hb).qualifiedName.simple.beq_iff hn.simple).1 hsame

/-! ### The theorem -/

/-- **The common metadata loses nothing.**  If the common phase of a typed model returns and its
registry has no conflicts, then all that the model declares can be read from the result. -/
theorem Generator.runCommon_reads_back {g : Generator} {s s' : Session} {c : CommonResult}
    (hm : g.model.Typed) (h : g.runCommon.Returns s c s') (hc : c.registry.conflicts = []) :
    ReadsModel g.resolver g.model c := by
  obtain ⟨registry, hwrites, hregistry, hresult⟩ := runCommon_inv h
  obtain ⟨hall, hfaults, hendpoints, hroots, htypes, hplans⟩ :=
    commonScript_ends hm (Script.ends_writes hresult)
  have hconflicts : registry.conflicts = [] := by
    rw [hregistry] at hc
    cases registry <;> exact hc
  have hreads : ∀ w ∈ g.model.writes g.resolver c.plan.faults, c.registry.Reads w.1 w.2 := by
    intro w hw
    rw [hregistry, Registry.reads_freeze]
    rw [hall] at hwrites
    exact Registry.reads_of_conflicts_nil hwrites hconflicts (g.model.simple_writes hm hfaults) hw
  simp only [ServiceModel.writes, List.forall_mem_append, List.forall_mem_map,
    List.forall_mem_flatMap] at hreads
  obtain ⟨hreads, hfaultReads, hrootReads⟩ := hreads
  refine ⟨fun e he => readsEndpoint (hendpoints e he) (hreads e he), hfaults, hfaultReads, htypes,
    fun e he => ⟨hroots e he, hrootReads e he, fun t ht hn => ?_⟩⟩
  have htext : e.qualifiedName.IsText := by
    have hne := (Resolver.resolve_inv (hm.rootElements e he).qualifiedName (hroots e he)).2
    rw [(hm.rootElements e he).qualifiedName.eq_text hne]
    exact Value.isText_text _
  obtain ⟨b, hb, hof, hname⟩ := rootElementOf_inv hm he hn htext
  have hid : b.identifier g.resolver = e.identifier g.resolver := by
    rw [RootElement.identifier, RootElement.identifier, hname]
  have hfirst := hrootReads b hb
  rw [hid] at hfirst
  obtain ⟨hname, hspace⟩ := Descriptor.rootElement.inj (hfirst.eq (hrootReads e he) rfl)
  exact ⟨b, (hplans t ht).trans hof, hname, hspace⟩

/-- A service with a call and a notice, whose packages are moved. -/
def orderService : Generator where
  model := {
    endpointGroups := [(.text "urn:shop", [{
      qualifiedName := .text "shop.Orders", targetNamespace := .text "urn:shop"
      operations := [
        { name := .text "find", action := .text "urn:shop#find"
          parameters := [{ elementName := .text "id" }, { elementName := .text "day" }]
          result := { type := some ⟨.text "shop.Order", .bool false⟩ }
          messages := [
            .bean { wrapper := .request, elementName := .text "find", space := .text "urn:shop"
                    beanName := .text "shop.Find"
                    children := [⟨.text "id", some ⟨.text "java.lang.String", .bool false⟩⟩] },
            .fault { qualifiedName := .text "shop.Missing", elementName := .text "missing"
                     space := .text "urn:shop"
                     explicitBean := some
                       ⟨.text "shop.Order", .text "order", .text "urn:shop"⟩ }] },
        { name := .text "ping", oneWay := true }] }])]
    schemaGroups := [(.text "urn:shop", {
      types := [{ qualifiedName := .text "shop.Order", space := .text "urn:shop"
                  members := [⟨.text "total", ⟨.text "int", .bool false⟩, false⟩] }]
      rootElements := [⟨.text "shop.Order", .text "order", .text "urn:shop"⟩] })] }
  settings := { runId := "run", outputDir := ⟨"", ["out"]⟩ }
  resolver := ⟨[(["shop"], ["client", "shop"])]⟩
  renderer := .shipped
  compiler := ⟨fun _ => Run.fail (.of .compileBeforeCommon)⟩

theorem Generator.runCommon_reads_back_orders :
    orderService.model.Typed ∧ ∃ c s', orderService.runCommon.Returns {} c s' ∧
      c.registry.conflicts = [] ∧ ReadsModel orderService.resolver orderService.model c := by
  have hm : orderService.model.Typed := by decide
  obtain ⟨c, s', h, hc⟩ := @Run.returns_of_check _ orderService.runCommon {}
    (fun c => c.registry.conflicts.isEmpty) (by decide +kernel)
  have hc : c.registry.conflicts = [] := List.isEmpty_iff.1 hc
  exact ⟨hm, c, s', h, hc, runCommon_reads_back hm h hc⟩

end SoapStubs
