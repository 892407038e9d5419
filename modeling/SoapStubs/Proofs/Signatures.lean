import Mathlib.Data.List.Forall2
import SoapStubs.Generation.Site
import SoapStubs.Generation.VariantPhase
import SoapStubs.Proofs.Outcome

/-!
# Implementations have the methods of their interfaces

The interface and the implementation of an endpoint are two sources, filled from two templates.
Each goes through the operations on its own, and inside through the parameters and the faults of an
operation.  They declare the same methods nevertheless.

* `Method.signature` is the signature of a method, as text; `Method.declaration` and
  `Method.opening` are what interfaces and implementations make of it;
* `Template.render_each` is the text of a repetition, `Template.render_signature` that of the
  signature in both templates;
* `operationBinding_eq`: what the templates get for an operation is its method;
* `endpointSources_implement` is the theorem: it gives both sources in full.
-/

namespace SoapStubs

/-! ### Methods -/

/-- A method of an endpoint: an operation with the types of its result and its parameters. -/
structure Method where
  plan : OperationPlan
  /-- The type of the result. -/
  returnType : String
  /-- The parameters with their types. -/
  parameters : List (String × Parameter)

namespace Method

variable (m : Method)

/-- What the method throws, if there is anything. -/
def throws : String :=
  if m.plan.faults.isEmpty then "" else " throws " ++ Text.join ", " m.plan.faults

/-- The parameters, each with its type in front of its name. -/
def arguments : List String := m.parameters.map fun p => p.1 ++ " " ++ p.2.elementName.plain

/-- The signature: the type of the result, the name, the parameters and what is thrown. -/
def signature : String :=
  m.returnType ++ " " ++ m.plan.operation.name.plain ++ "(" ++ Text.join ", " m.arguments ++ ")" ++
    m.throws

/-- The action of the operation, as the comment names it. -/
def actionNote : String :=
  let action := m.plan.operation.action
  if action.truthy then Text.concat [", action \"", action.plain, "\""] else ""

/-- The comment's note on an operation that is not answered. -/
def oneWayNote : String :=
  if (Value.bool m.plan.operation.oneWay).truthy then Text.concat [", one-way"] else ""

/-- The comment on the method in an interface. -/
def comment : String :=
  "\n  /**\n   * Operation " ++ m.plan.operation.wireName.plain ++ m.actionNote ++ m.oneWayNote ++
    ".\n   */\n"

/-- The bean of the request, as the body names it. -/
def beanNote : String :=
  let bean := optionalText m.plan.requestBean
  if bean.truthy then Text.concat [" + \" via ", bean.plain, "\""] else ""

/-- The body of the method in an implementation. -/
def body : String :=
  "    throw new UnsupportedOperationException(\"" ++ m.plan.operation.wireName.plain ++
    " is dispatched by the client runtime\"" ++ m.beanNote ++ ");\n  \x7d\n"

/-- The declaration of the method in an interface. -/
def declaration : String := "  " ++ m.signature ++ ";\n"

/-- The first line of the method in an implementation. -/
def opening : String := "  public " ++ m.signature ++ " \x7b\n"

/-- What the templates get for a parameter. -/
def parameterValue (p : String × Parameter) : Value :=
  .record [("name", p.2.elementName), ("type", .text p.1)]

/-- What the templates get for the method. -/
def value : Value :=
  let o := m.plan.operation
  .record [("name", o.name), ("operation_name", o.wireName), ("action", o.action),
    ("one_way", .bool o.oneWay), ("request_bean", optionalText m.plan.requestBean),
    ("response_bean", optionalText m.plan.responseBean), ("return_type", .text m.returnType),
    ("parameters", .list (m.parameters.map parameterValue)),
    ("faults", .texts m.plan.faults)]

end Method

/-! ### Repetitions and signatures -/

namespace Template

variable {s : Scope} {x : String} {values : List Value} {body : List Node}

theorem renderAll_cons {n : Node} {ns : List Node} {t u : String} (hn : n.render s = .ok t)
    (hns : renderAll ns s = .ok u) : renderAll (n :: ns) s = .ok (t ++ u) := by
  rw [renderAll, hn, hns]
  rfl

theorem renderAll_append {front back : List Node} {t u : String}
    (hfront : renderAll front s = .ok t) (hback : renderAll back s = .ok u) :
    renderAll (front ++ back) s = .ok (t ++ u) := by
  induction front generalizing t with
  | nil =>
    cases hfront
    rw [List.nil_append, hback, String.empty_append]
  | cons n front ih =>
    rw [renderAll] at hfront
    obtain ⟨a, hn, hfront⟩ := bind_eq_ok.1 hfront
    obtain ⟨b, hrest, rfl⟩ := return_eq_ok.1 hfront
    rw [List.cons_append, renderAll_cons hn (ih hrest), String.append_assoc]

/-- Pieces one after another have their texts one after another. -/
theorem renderAll_of_forall₂ {ns : List Node} {ts : List String}
    (h : List.Forall₂ (fun n t => n.render s = .ok t) ns ts) :
    renderAll ns s = .ok (Text.concat ts) := by
  induction h with
  | nil => rfl
  | cons hn _ ih => exact renderAll_cons hn ih

theorem noneLeft_all (values : List Value) :
    noneLeft (fun _ => .ok true) values = .ok values.isEmpty := by
  cases values <;> rfl

/-- **The text of a repetition**: the texts of the items with what each but the last one adds. -/
theorem render_each {items : Expr} {separator : String} {ts : List String}
    (hitems : items.value s = .ok (.list values))
    (hbody : List.Forall₂ (fun v t => ∀ last : Bool, renderAll body (s.bind x v (.ok last)) =
      .ok (t ++ if last then "" else separator)) values ts) :
    (Node.each x items none body []).render s = .ok (Text.join separator ts) := by
  have hrepeated : repeated (fun _ => .ok true) (fun v last => renderAll body (s.bind x v last))
      values = .ok (Text.join separator ts, !values.isEmpty) := by
    clear hitems
    induction hbody with
    | nil => rfl
    | @cons v t values ts hv hrest ih =>
      rw [repeated, noneLeft_all, hv, ih]
      cases hrest <;> simp [Text.join]
  rw [Node.render, hitems]
  show (repeated (fun _ => .ok true) (fun v last => renderAll body (s.bind x v last)) values
    >>= _) = _
  rw [hrepeated]
  cases hbody <;> rfl

theorem eval_member {v w : Value} {y : String} (hs : s.look x = .value v)
    (hv : v.field? y = some w) : (Expr.member (.name x) y).eval s = .ok (.value w) := by
  rw [Expr.eval, Expr.eval, hs]
  show Except.ok (member v y) = _
  rw [member, hv]

theorem value_member {v w : Value} {y : String} (hs : s.look x = .value v)
    (hv : v.field? y = some w) : (Expr.member (.name x) y).value s = .ok w := by
  rw [Expr.value, eval_member hs hv]
  rfl

theorem render_part {v w : Value} {y : String} (hs : s.look x = .value v)
    (hv : v.field? y = some w) : (part x y).render s = .ok w.plain := by
  rw [part, Node.render, value_member hs hv]
  rfl

theorem render_branch {e : Expr} {v : Value} {t : String} (he : e.value s = .ok v)
    (hbody : renderAll body s = .ok t) :
    (Node.branch e body).render s = .ok (if v.truthy then t else "") := by
  rw [Node.render, Expr.holds, he]
  show (if v.truthy then renderAll body s else .ok "") = _
  rw [hbody]
  split <;> rfl

theorem render_parameter (p : String × Parameter) (last : Bool) :
    renderAll [part "p" "type", .text " ", part "p" "name", separated ", " ""]
      (s.bind "p" (Method.parameterValue p) (.ok last)) =
        .ok (p.1 ++ " " ++ p.2.elementName.plain ++ if last then "" else ", ") := by
  have htexts : renderAll [part "p" "type", .text " ", part "p" "name", separated ", " ""]
      (s.bind "p" (Method.parameterValue p) (.ok last)) =
        .ok (Text.concat [p.1, " ", p.2.elementName.plain, if last then "" else ", "]) := by
    refine renderAll_of_forall₂ (.cons rfl (.cons rfl (.cons rfl (.cons ?_ .nil))))
    cases last <;> rfl
  rw [htexts]
  simp [Text.concat, String.append_assoc]

theorem render_parameters {m : Method} (hs : s.look "op" = .value m.value) :
    (Node.each "p" (.member (.name "op") "parameters") none [part "p" "type", .text " ",
      part "p" "name", separated ", " ""] []).render s = .ok (Text.join ", " m.arguments) := by
  refine render_each (value_member hs rfl) ?_
  rw [Method.arguments, List.forall₂_map_left_iff, List.forall₂_map_right_iff, List.forall₂_same]
  exact fun p _ => render_parameter p

theorem render_throws {m : Method} (hs : s.look "op" = .value m.value) :
    (Node.branch (.member (.name "op") "faults") [.text " throws ",
      .print (.join ", " (.member (.name "op") "faults"))]).render s = .ok m.throws := by
  have hfaults : m.value.field? "faults" = some (.texts m.plan.faults) := rfl
  have hjoin : (Node.print (.join ", " (.member (.name "op") "faults"))).render s =
      .ok (Text.join ", " m.plan.faults) := by
    have hplain : (m.plan.faults.map Value.text).map Value.plain = m.plan.faults := by
      rw [List.map_map]
      exact List.map_id _
    rw [Node.render, Expr.value, Expr.eval, eval_member hs hfaults]
    show Except.ok (Text.join ", " ((m.plan.faults.map Value.text).map Value.plain)) = _
    rw [hplain]
  rw [render_branch (value_member hs hfaults)
    (renderAll_of_forall₂ (.cons rfl (.cons hjoin .nil))), Method.throws]
  cases m.plan.faults <;> simp [Value.texts, Value.truthy, Text.concat]

/-- **The text of the signature of a method**, in whichever template. -/
theorem render_signature {m : Method} (hs : s.look "op" = .value m.value) :
    renderAll signature s = .ok m.signature := by
  have hreturn : (part "op" "return_type").render s = .ok (Value.text m.returnType).plain :=
    render_part hs rfl
  have hname : (part "op" "name").render s = .ok m.plan.operation.name.plain := render_part hs rfl
  have htexts : renderAll signature s = .ok (Text.concat [m.returnType, " ",
      m.plan.operation.name.plain, "(", Text.join ", " m.arguments, ")", m.throws]) :=
    renderAll_of_forall₂ (.cons hreturn (.cons rfl (.cons hname (.cons rfl
      (.cons (render_parameters hs) (.cons rfl (.cons (render_throws hs) .nil)))))))
  rw [htexts, Method.signature]
  simp [Text.concat, String.append_assoc]

end Template

/-! ### What the templates get -/

section

variable {r : Resolver} {v : Variant}

def OperationPlan.method (r : Resolver) (v : Variant) (plan : OperationPlan) :
    Except Failure Method := do
  let returnType ← r.resolveType plan.operation.result.type v
  let parameters ← plan.operation.parameters.mapM fun p => (valueType r p.type v).map (·, p)
  return ⟨plan, returnType, parameters⟩

theorem operationBinding_eq (plan : OperationPlan) :
    operationBinding r v plan = (plan.method r v).map Method.value := by
  have hparameters : (plan.operation.parameters.mapM (parameterBinding r v)) =
      (plan.operation.parameters.mapM fun p => (valueType r p.type v).map (·, p)).map
        (List.map Method.parameterValue) := by
    rw [← mapM_map_ok]
    refine congrArg (fun f => plan.operation.parameters.mapM f) (funext fun p => ?_)
    rw [parameterBinding]
    cases valueType r p.type v <;> rfl
  rw [operationBinding, OperationPlan.method, hparameters]
  cases r.resolveType plan.operation.result.type v with
  | error e => rfl
  | ok type =>
    cases plan.operation.parameters.mapM fun p => (valueType r p.type v).map (·, p) <;> rfl

def EndpointPlan.sourceNames (plan : EndpointPlan) (v : Variant) (ms : List Method) :
    List (String × Value) :=
  [("class_name", .text (Name.simple plan.identifier)),
    ("impl_class_name", .text (Name.simple plan.implIdentifier)),
    ("target_namespace", plan.endpoint.targetNamespace), ("port_type", plan.endpoint.portType),
    ("service_name", plan.endpoint.service), ("variant", .text v.name),
    ("operations", .list (ms.map Method.value))]

theorem endpointBindings_eq (plan : EndpointPlan) :
    endpointBindings r plan v =
      (plan.operations.mapM (OperationPlan.method r v)).map (plan.sourceNames v) := by
  have hoperations : plan.operations.mapM (operationBinding r v) =
      (plan.operations.mapM (OperationPlan.method r v)).map (List.map Method.value) := by
    rw [← mapM_map_ok]
    exact congrArg (fun f => plan.operations.mapM f) (funext operationBinding_eq)
  rw [endpointBindings, hoperations]
  cases plan.operations.mapM (OperationPlan.method r v) <;> rfl

end

/-! ### The two sources -/

/-- The comment at the head of a source, and its package unless it has none. -/
def headerText (runId package : String) : String := Text.concat [
  "/*\n * Generated by clientgen (run ", runId, "). Do not edit.\n */\n",
  if package = "" then "" else Text.concat ["package ", package, ";\n\n"]]

namespace EndpointPlan

variable (plan : EndpointPlan) (ms : List Method)

/-- The interface, from the comment on it to its end. -/
def interfaceText : String := Text.concat [
  "\n/**\n * Client interface for port type ", plan.endpoint.portType.plain, " (",
  plan.endpoint.targetNamespace.plain, ").\n */\npublic interface ",
  Name.simple plan.identifier, " \x7b\n",
  Text.concat (ms.map fun m => m.comment ++ m.declaration), "\x7d\n"]

/-- The implementation, from the comment on it to its end. -/
def implText (url : String) : String :=
  let interface := Name.simple plan.identifier
  let impl := Name.simple plan.implIdentifier
  Text.concat [
    "\n/**\n * SOAP implementation of ", interface, " for service ",
    plan.endpoint.service.plain, ".\n */\npublic class ", impl, " implements ", interface,
    " \x7b\n\n  public static final String DEFAULT_ENDPOINT = \"", url,
    "\";\n\n  private final String endpoint;\n\n  public ", impl,
    "() \x7b\n    this(DEFAULT_ENDPOINT);\n  \x7d\n\n  public ", impl,
    "(String endpoint) \x7b\n    this.endpoint = endpoint;\n  \x7d\n\n" ++
      "  public String getEndpoint() \x7b\n    return this.endpoint;\n  \x7d\n",
    Text.concat (ms.map fun m => "\n" ++ m.opening ++ m.body), "\x7d\n"]

end EndpointPlan

@[simp] theorem Text.concat_nil : Text.concat [] = "" := rfl

@[simp] theorem Text.concat_cons (t : String) (ts : List String) :
    Text.concat (t :: ts) = t ++ Text.concat ts := rfl

theorem Text.join_empty (ts : List String) : Text.join "" ts = Text.concat ts := by
  induction ts with
  | nil => rfl
  | cons t ts ih =>
    cases ts with
    | nil => exact (String.append_empty).symm
    | cons => rw [Text.join, ih, String.append_empty]; rfl

namespace Template

theorem render_header {s : Scope} {runId package : String}
    (hrun : s.look "run_id" = .value (.text runId))
    (hpackage : s.look "package" = .value (.text package)) :
    header.render s = .ok (headerText runId package) := by
  have hline : (if (Value.text package).truthy then
      Text.concat ["package ", package, ";\n\n"] else "") =
        if package = "" then "" else Text.concat ["package ", package, ";\n\n"] := by
    by_cases h : package = "" <;> simp [h, Value.truthy]
  rw [header, Node.render, List.map, List.map, List.map, evalAll, evalAll, evalAll, Expr.eval,
    Expr.eval, hrun, hpackage, headerText, ← hline]
  exact renderAll_of_forall₂ (.cons rfl (.cons rfl (.cons rfl (.cons (render_branch rfl
    (renderAll_of_forall₂ (.cons rfl (.cons rfl (.cons rfl .nil))))) .nil))))

variable {plan : EndpointPlan} {ms : List Method} {v : Variant} {url : String}
variable {site : Site} {source : Source}

theorem bindings_endpoint
    (h : source.bindings = plan.sourceNames v ms ++ [("default_url", .text url)]) :
    site.bindings source = [("run_id", .text site.runId), ("identifier", .text source.identifier),
      ("package", .text (Name.package source.identifier))] ++ plan.sourceNames v ms ++
        [("default_url", .text url)] := by
  rw [Site.bindings, h]
  rfl

/-- A template that goes through the operations writes the text of each method. -/
theorem render_methods {s : Scope} {body : List Node} {f : Method → String}
    (hs : s.look "operations" = .value (.list (ms.map Method.value)))
    (hbody : ∀ (m : Method) (t : Scope), t.look "op" = .value m.value →
      renderAll body t = .ok (f m)) :
    (Node.each "op" (.name "operations") none body []).render s =
      .ok (Text.concat (ms.map f)) := by
  have hitems : (Expr.name "operations").value s = .ok (.list (ms.map Method.value)) := by
    rw [Expr.value, Expr.eval, hs]
    rfl
  rw [← Text.join_empty]
  refine render_each hitems ?_
  rw [List.forall₂_map_left_iff, List.forall₂_map_right_iff, List.forall₂_same]
  intro m _ last
  rw [hbody m _ rfl, ite_self, String.append_empty]

theorem render_interface
    (h : source.bindings = plan.sourceNames v ms ++ [("default_url", .text url)]) :
    renderAll endpointInterface (.ofBindings (site.bindings source)) =
      .ok (headerText site.runId (Name.package source.identifier) ++ plan.interfaceText ms) := by
  rw [bindings_endpoint h]
  refine renderAll_cons (render_header rfl rfl) (renderAll_of_forall₂ (.cons rfl (.cons rfl
    (.cons rfl (.cons rfl (.cons rfl (.cons rfl (.cons rfl (.cons (render_methods rfl ?_)
      (.cons rfl .nil))))))))))
  intro m s hs
  have haction : (Node.branch (.member (.name "op") "action") [.text ", action \"",
      part "op" "action", .text "\""]).render s = .ok m.actionNote :=
    render_branch (value_member hs rfl)
      (renderAll_of_forall₂ (.cons rfl (.cons (render_part hs rfl) (.cons rfl .nil))))
  have honeWay : (Node.branch (.member (.name "op") "one_way") [.text ", one-way"]).render s =
      .ok m.oneWayNote :=
    render_branch (value_member hs rfl) (renderAll_of_forall₂ (.cons rfl .nil))
  have hend : (Node.text ".\n   */\n  ").render s = .ok (".\n   */\n" ++ "  ") := rfl
  -- Over literals the comparison of texts would compute them, so it is made over names.
  have htext (a b c d e f g h : String) : Text.concat [a, b, c, d, e ++ f] ++ g ++ Text.concat [h] =
      (a ++ b ++ c ++ d ++ e) ++ (f ++ g ++ h) := by
    simp [String.append_assoc]
  exact Eq.trans (renderAll_append (renderAll_append (renderAll_of_forall₂ (.cons rfl
    (.cons (render_part hs rfl) (.cons haction (.cons honeWay (.cons hend .nil))))))
      (render_signature hs)) (renderAll_of_forall₂ (.cons rfl .nil)))
        (congrArg Except.ok (htext ..))

theorem render_impl
    (h : source.bindings = plan.sourceNames v ms ++ [("default_url", .text url)]) :
    renderAll endpointImpl (.ofBindings (site.bindings source)) =
      .ok (headerText site.runId (Name.package source.identifier) ++ plan.implText ms url) := by
  rw [bindings_endpoint h]
  refine renderAll_cons (render_header rfl rfl) (renderAll_of_forall₂ (.cons rfl (.cons rfl
    (.cons rfl (.cons rfl (.cons rfl (.cons rfl (.cons rfl (.cons rfl (.cons rfl (.cons rfl
      (.cons rfl (.cons rfl (.cons rfl (.cons rfl (.cons rfl (.cons (render_methods rfl ?_)
        (.cons rfl .nil))))))))))))))))))
  intro m s hs
  have hbean : (Node.branch (.member (.name "op") "request_bean") [.text " + \" via ",
      part "op" "request_bean", .text "\""]).render s = .ok m.beanNote :=
    render_branch (value_member hs rfl)
      (renderAll_of_forall₂ (.cons rfl (.cons (render_part hs rfl) (.cons rfl .nil))))
  have hopening : (Node.text "\n  public ").render s = .ok ("\n" ++ "  public ") := rfl
  have hbody : (Node.text " \x7b\n    throw new UnsupportedOperationException(\"").render s =
      .ok (" \x7b\n" ++ "    throw new UnsupportedOperationException(\"") := rfl
  have htext (a b c d e f g h i : String) : Text.concat [a ++ b] ++ c ++
      Text.concat [d ++ e, f, g, h, i] = a ++ (b ++ c ++ d) ++ (e ++ f ++ g ++ h ++ i) := by
    simp [String.append_assoc]
  exact Eq.trans (renderAll_append (renderAll_append (renderAll_of_forall₂ (.cons hopening .nil))
    (render_signature hs)) (renderAll_of_forall₂ (.cons hbody (.cons (render_part hs rfl)
      (.cons rfl (.cons hbean (.cons rfl .nil))))))) (congrArg Except.ok (htext ..))

end Template

/-- **An implementation has the methods of its interface.**  If there are names for the sources of
an endpoint, then its interface and its implementation are both rendered.  For the same methods,
one for each operation and in their order, the one holds their declarations and the other opens and
fills them; and the class that is implemented is that of the interface. -/
theorem endpointSources_implement {r : Resolver} {v : Variant} {plan : EndpointPlan}
    {bindings : List (String × Value)} (site : Site) (d : Deployment) (common : Registry)
    (hsite : site.renderer = .shipped) (h : endpointBindings r plan v = .ok bindings) :
    ∃ (ms : List Method) (interface impl : Source),
      plan.operations.mapM (OperationPlan.method r v) = .ok ms ∧
      [.emit interface, .emit impl] <+: (endpointSources r v d common plan).steps ∧
      interface.identifier = plan.identifier ∧ impl.identifier = plan.implIdentifier ∧
      site.renderer.text interface.template (site.bindings interface) =
        .ok (headerText site.runId (Name.package plan.identifier) ++ plan.interfaceText ms) ∧
      site.renderer.text impl.template (site.bindings impl) =
        .ok (headerText site.runId (Name.package plan.implIdentifier) ++
          plan.implText ms (d.url plan.endpoint.service.plain)) := by
  rw [hsite]
  cases hms : plan.operations.mapM (OperationPlan.method r v) with
  | error e =>
    rw [endpointBindings_eq, hms] at h
    cases h
  | ok ms =>
    have hbindings : endpointBindings r plan v = .ok (plan.sourceNames v ms) := by
      rw [endpointBindings_eq, hms]
      rfl
    refine ⟨ms, ⟨.endpointInterface, "endpoint-interface", plan.identifier, plan.sourceNames v ms ++
        [("default_url", .text (d.url plan.endpoint.service.plain))], some v⟩,
      ⟨.endpointImpl, "endpoint-impl", plan.implIdentifier, plan.sourceNames v ms ++
        [("default_url", .text (d.url plan.endpoint.service.plain))], some v⟩, rfl, ?_, rfl, rfl,
      ?_, ?_⟩
    · rw [endpointSources, hbindings]
      exact List.prefix_append _ _
    · rw [@TemplateRenderer.shipped_text "endpoint-interface" Template.endpointInterface rfl]
      exact Template.render_interface rfl
    · rw [@TemplateRenderer.shipped_text "endpoint-impl" Template.endpointImpl rfl]
      exact Template.render_impl rfl

/-- An endpoint with a method that has everything and one that has next to nothing. -/
def EndpointPlan.till : EndpointPlan where
  identifier := "shop.Till"
  implIdentifier := "shop.impl.TillImpl"
  endpoint := { qualifiedName := .text "shop.Till", targetNamespace := .text "urn:shop" }
  operations := [
    { methodKey := "pay", requestBean := some "shop.Pay", faults := ["shop.Broke", "shop.Closed"]
      operation := {
        name := .text "pay", action := .text "urn:pay"
        result := { type := some ⟨.text "shop.Receipt", .bool true⟩ }
        parameters := [{ elementName := .text "sum", type := some ⟨.text "int", .bool false⟩ },
          { elementName := .text "note" }] } },
    { methodKey := "close", operation := { name := .text "close", oneWay := true } }]

/-- The two methods of the till, in both of its sources. -/
theorem endpointSources_implement_till : ∃ (ms : List Method) (interface impl : Source),
    ms.map Method.signature =
      ["java.util.List<shop.Receipt> pay(int sum, java.lang.Object note) throws shop.Broke, " ++
        "shop.Closed", "void close()"] ∧
    [.emit interface, .emit impl] <+:
      (endpointSources ⟨[]⟩ .modern {} .empty EndpointPlan.till).steps ∧
    TemplateRenderer.shipped.text interface.template
        (Site.bindings ⟨.shipped, ⟨"", []⟩, "7"⟩ interface) =
      .ok (headerText "7" "shop" ++ EndpointPlan.till.interfaceText ms) ∧
    TemplateRenderer.shipped.text impl.template (Site.bindings ⟨.shipped, ⟨"", []⟩, "7"⟩ impl) =
      .ok (headerText "7" "shop.impl" ++
        EndpointPlan.till.implText ms "http://localhost/soap/TillService") := by
  have hbindings : endpointBindings ⟨[]⟩ EndpointPlan.till .modern = .ok _ := rfl
  obtain ⟨ms, interface, impl, hms, hsteps, -, -, hinterface, himpl⟩ :=
    endpointSources_implement ⟨.shipped, ⟨"", []⟩, "7"⟩ {} .empty rfl hbindings
  refine ⟨ms, interface, impl, ?_, hsteps, hinterface, himpl⟩
  cases hms
  decide +kernel

end SoapStubs
