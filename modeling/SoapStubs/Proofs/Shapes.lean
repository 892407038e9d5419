import Mathlib.Data.List.Forall2
import SoapStubs.Proofs.Typed
import SoapStubs.Template

/-!
# Shapes of bindings

A template can be checked against what is known of its bindings, before there are any.  What is
known of a value is its shape: that it is a text, a list of values of a shape, a mapping with
certain members.

* `Shape` is what is known of a value, and `Shape.Fits` says that a value is like that;
* `Expr.shape?` is the shape of an expression whose names have shapes, and `Node.covered` says that
  a piece of a template uses nothing but what the shapes promise.  Inside a condition on a name, the
  name counts as true;
* `Node.render_of_covered`: then the piece is rendered, whatever the bindings are that fit.
-/

namespace SoapStubs.Template

/-! ### Shapes -/

/-- What is known of a value. -/
inductive Shape where
  /-- Nothing. -/
  | any
  | text
  /-- It is a list whose items have a shape. -/
  | list (item : Shape)
  /-- It is a mapping that has members of given shapes. -/
  | record (members : List (String × Shape))
  /-- It has the shape if it counts as true. -/
  | optional (shape : Shape)

/-- Names with what is known of their values. -/
abbrev Names := List (String × Shape)

mutual

def Shape.Fits : Shape → Value → Prop
  | .any, _ => True
  | .text, v => v.IsText
  | .list item, v => ∃ items, v = .list items ∧ ∀ w ∈ items, item.Fits w
  | .record members, v => FitsMembers members v
  | .optional shape, v => v.truthy = true → shape.Fits v
termination_by structural shape => shape

def FitsMembers : List (String × Shape) → Value → Prop
  | [], _ => True
  | (x, shape) :: rest, v => (∃ w, v.field? x = some w ∧ shape.Fits w) ∧ FitsMembers rest v
termination_by structural members => members

end

variable {Γ : Names} {s : Scope} {shape : Shape} {v : Value} {x : String}

theorem fitsMembers_iff {members : Names} :
    FitsMembers members v ↔ ∀ m ∈ members, ∃ w, v.field? m.1 = some w ∧ m.2.Fits w := by
  induction members with
  | nil => simp [FitsMembers]
  | cons m members ih => rw [List.forall_mem_cons, ← ih, FitsMembers]

theorem Shape.Fits.member {members : Names} (h : (Shape.record members).Fits v)
    (hx : members.lookup x = some shape) : ∃ w, v.field? x = some w ∧ shape.Fits w := by
  rw [Shape.Fits, fitsMembers_iff] at h
  obtain ⟨front, back, rfl, -⟩ := List.lookup_eq_some_iff.1 hx
  exact h (x, shape) (by simp)

/-- The scope has values of the shapes for the names, and knows whether an item is the last. -/
structure Scope.Fits (Γ : Names) (s : Scope) : Prop where
  names : ∀ x shape, Γ.lookup x = some shape → ∃ v, s.look x = .value v ∧ shape.Fits v
  /-- It is known whether the item is the last. -/
  last : ∃ b, s.last = .ok b

theorem lookup_cons_cases {y : String} {shape' : Shape}
    (h : List.lookup y ((x, shape) :: Γ) = some shape') :
    (y = x ∧ shape = shape') ∨ (y == x) = false ∧ Γ.lookup y = some shape' := by
  rw [List.lookup_cons] at h
  split at h
  · rename_i heq
    exact .inl ⟨eq_of_beq heq, Option.some.inj h⟩
  · rename_i hne
    exact .inr ⟨hne, h⟩

/-- More is known of a name. -/
theorem Scope.Fits.learn (hs : s.Fits Γ) (hx : s.look x = .value v) (hv : shape.Fits v) :
    s.Fits ((x, shape) :: Γ) := by
  refine ⟨fun y shape' hy => ?_, hs.last⟩
  rcases lookup_cons_cases hy with ⟨rfl, rfl⟩ | ⟨-, hy⟩
  · exact ⟨v, hx, hv⟩
  · exact hs.names y shape' hy

/-- There is one more name. -/
theorem Scope.Fits.bind (hs : s.Fits Γ) (hv : shape.Fits v) {last : Except Cause Bool}
    (hlast : ∃ b, last = .ok b) : (s.bind x v last).Fits ((x, shape) :: Γ) := by
  refine ⟨fun y shape' hy => ?_, hlast⟩
  rcases lookup_cons_cases hy with ⟨rfl, rfl⟩ | ⟨hne, hy⟩
  · exact ⟨v, by simp [Scope.look, Scope.bind], hv⟩
  · obtain ⟨w, hw, hfits⟩ := hs.names y shape' hy
    refine ⟨w, ?_, hfits⟩
    rw [← hw]
    simp only [Scope.look, Scope.bind, List.lookup_cons, hne]

/-- Arguments of a call. -/
theorem Scope.fits_zip {shapes : List Shape} {vs : List Value}
    (h : List.Forall₂ Shape.Fits shapes vs) (xs : List String) :
    Scope.Fits (xs.zip shapes) ⟨xs.zip (vs.map .value), .ok true⟩ := by
  induction h generalizing xs with
  | nil => exact ⟨by simp, true, rfl⟩
  | cons hv _ ih =>
    cases xs with
    | nil => exact ⟨by simp, true, rfl⟩
    | cons x xs => exact (ih xs).bind hv ⟨true, rfl⟩

/-! ### Expressions -/

mutual

/-- What is known of the value of an expression; nothing, if it may have none. -/
def Expr.shape? (Γ : Names) : Expr → Option Shape
  | .text _ => some .text
  | .name x => Γ.lookup x
  | .member e x =>
    match e.shape? Γ with
    | some (.record members) => members.lookup x
    | _ => none
  | .either a b =>
    match a.shape? Γ, b.shape? Γ with
    | some _, some _ => some .any
    | _, _ => none
  | .choose c a b =>
    match c.shape? Γ, a.shape? Γ, b.shape? Γ with
    | some _, some _, some _ => some .any
    | _, _, _ => none
  | .negate e => (e.shape? Γ).map fun _ => .any
  | .concat es => (shapes? Γ es).map fun _ => .text
  | .capitalize e =>
    match e.shape? Γ with
    | some .text => some .text
    | _ => none
  | .upper e => (e.shape? Γ).map fun _ => .text
  | .join _ e =>
    match e.shape? Γ with
    | some (.list _) => some .text
    | _ => none
  | .last => some .any
termination_by structural e => e

/-- What is known of the values of expressions. -/
def shapes? (Γ : Names) : List Expr → Option (List Shape)
  | [] => some []
  | e :: es =>
    match e.shape? Γ, shapes? Γ es with
    | some shape, some shapes => some (shape :: shapes)
    | _, _ => none
termination_by structural es => es

end

theorem mapM_use_value (vs : List Value) : (vs.map Seen.value).mapM Seen.use = .ok vs := by
  induction vs with
  | nil => rfl
  | cons v vs ih =>
    rw [List.map_cons, List.mapM_cons, ih]
    rfl

mutual

/-- **An expression with a shape has a value of it.** -/
theorem Expr.eval_of_shape (hs : s.Fits Γ) : ∀ (e : Expr) {shape : Shape},
    e.shape? Γ = some shape → ∃ v, e.eval s = .ok (.value v) ∧ shape.Fits v
  | .text t, shape, h => by
    cases h
    exact ⟨.text t, rfl, rfl⟩
  | .name x, shape, h => by
    obtain ⟨v, hv, hfits⟩ := hs.names x shape h
    exact ⟨v, congrArg Except.ok hv, hfits⟩
  | .member e x, shape, h => by
    rw [Expr.shape?] at h
    split at h
    · rename_i members he
      obtain ⟨v, hv, hfits⟩ := Expr.eval_of_shape hs e he
      obtain ⟨w, hw, hmember⟩ := hfits.member h
      refine ⟨w, ?_, hmember⟩
      rw [Expr.eval, hv]
      show Except.ok (member v x) = _
      rw [member, hw]
    · cases h
  | .either a b, shape, h => by
    rw [Expr.shape?] at h
    split at h
    · rename_i ha hb
      cases h
      obtain ⟨v, hv, -⟩ := Expr.eval_of_shape hs a ha
      obtain ⟨w, hw, -⟩ := Expr.eval_of_shape hs b hb
      refine ⟨if v.truthy then v else w, ?_, trivial⟩
      rw [Expr.eval, hv, hw]
      show (if v.truthy then Except.ok (Seen.value v) else Except.ok (Seen.value w)) = _
      cases v.truthy <;> rfl
    · cases h
  | .choose c a b, shape, h => by
    rw [Expr.shape?] at h
    split at h
    · rename_i hc ha hb
      cases h
      obtain ⟨u, hu, -⟩ := Expr.eval_of_shape hs c hc
      obtain ⟨v, hv, -⟩ := Expr.eval_of_shape hs a ha
      obtain ⟨w, hw, -⟩ := Expr.eval_of_shape hs b hb
      refine ⟨if u.truthy then v else w, ?_, trivial⟩
      rw [Expr.eval, hu, hv, hw]
      show (if u.truthy then Except.ok (Seen.value v) else Except.ok (Seen.value w)) = _
      cases u.truthy <;> rfl
    · cases h
  | .negate e, shape, h => by
    obtain ⟨shape', he, rfl⟩ := Option.map_eq_some_iff.1 h
    obtain ⟨v, hv, -⟩ := Expr.eval_of_shape hs e he
    exact ⟨.bool !v.truthy, by rw [Expr.eval, hv]; rfl, trivial⟩
  | .concat es, shape, h => by
    obtain ⟨shapes, hes, rfl⟩ := Option.map_eq_some_iff.1 h
    obtain ⟨vs, hvs, -⟩ := evalAll_of_shapes hs es hes
    refine ⟨.text (Text.concat (vs.map Value.plain)), ?_, rfl⟩
    rw [Expr.eval, hvs]
    show ((vs.map Seen.value).mapM Seen.use >>= _) = _
    rw [mapM_use_value]
    rfl
  | .capitalize e, shape, h => by
    rw [Expr.shape?] at h
    split at h
    · rename_i he
      cases h
      obtain ⟨v, hv, htext⟩ := Expr.eval_of_shape hs e he
      refine ⟨.text (Text.capitalize v.nameText), ?_, rfl⟩
      rw [Value.IsText.eq htext] at hv
      rw [Expr.eval, hv]
      rfl
    · cases h
  | .upper e, shape, h => by
    obtain ⟨shape', he, rfl⟩ := Option.map_eq_some_iff.1 h
    obtain ⟨v, hv, -⟩ := Expr.eval_of_shape hs e he
    exact ⟨.text (Text.upper v.plain), by rw [Expr.eval, hv]; rfl, rfl⟩
  | .join separator e, shape, h => by
    rw [Expr.shape?] at h
    split at h
    · rename_i item he
      cases h
      obtain ⟨v, hv, items, rfl, -⟩ := Expr.eval_of_shape hs e he
      refine ⟨.text (Text.join separator (items.map Value.plain)), ?_, rfl⟩
      rw [Expr.eval, hv]
      rfl
    · cases h
  | .last, shape, h => by
    obtain ⟨b, hb⟩ := hs.last
    cases h
    exact ⟨.bool b, by rw [Expr.eval, hb]; rfl, trivial⟩
termination_by structural e => e

/-- Expressions with shapes have values of them. -/
theorem evalAll_of_shapes (hs : s.Fits Γ) : ∀ (es : List Expr) {shapes : List Shape},
    shapes? Γ es = some shapes →
      ∃ vs : List Value, evalAll es s = .ok (vs.map .value) ∧ List.Forall₂ Shape.Fits shapes vs
  | [], shapes, h => by
    cases h
    exact ⟨[], rfl, .nil⟩
  | e :: es, shapes, h => by
    rw [shapes?] at h
    split at h
    · rename_i shape shapes he hes
      cases h
      obtain ⟨v, hv, hfits⟩ := Expr.eval_of_shape hs e he
      obtain ⟨vs, hvs, hall⟩ := evalAll_of_shapes hs es hes
      exact ⟨v :: vs, by rw [evalAll, hv, hvs]; rfl, .cons hfits hall⟩
    · cases h
termination_by structural es => es

end

/-- An expression with a shape can be used. -/
theorem Expr.value_of_shape (hs : s.Fits Γ) {e : Expr} (h : e.shape? Γ = some shape) :
    ∃ v, e.value s = .ok v ∧ shape.Fits v := by
  obtain ⟨v, hv, hfits⟩ := Expr.eval_of_shape hs e h
  exact ⟨v, by rw [Expr.value, hv]; rfl, hfits⟩

theorem Expr.holds_of_shape (hs : s.Fits Γ) {e : Expr} (h : e.shape? Γ = some shape) :
    ∃ v, e.value s = .ok v ∧ shape.Fits v ∧ e.holds s = .ok v.truthy := by
  obtain ⟨v, hv, hfits⟩ := Expr.value_of_shape hs h
  exact ⟨v, hv, hfits, by rw [Expr.holds, hv]; rfl⟩

/-! ### Pieces -/

/-- What is known of names where a condition counts as true. -/
def Names.given (Γ : Names) : Expr → Names
  | .name x =>
    match Γ.lookup x with
    | some (.optional shape) => (x, shape) :: Γ
    | _ => Γ
  | _ => Γ

mutual

/-- Does the piece use nothing but what is known of the names? -/
def Node.covered (Γ : Names) : Node → Bool
  | .text _ => true
  | .print e => (e.shape? Γ).isSome
  | .branch condition body =>
    (condition.shape? Γ).isSome && coveredAll (Γ.given condition) body
  | .each x items filter body otherwise =>
    match items.shape? Γ with
    | some (.list item) =>
      (filter.all fun f => (f.shape? ((x, item) :: Γ)).isSome) &&
        coveredAll ((x, item) :: Γ) body && coveredAll Γ otherwise
    | _ => false
  | .call arguments body =>
    match shapes? Γ (arguments.map Prod.snd) with
    | some shapes => coveredAll ((arguments.map Prod.fst).zip shapes) body
    | none => false
termination_by structural n => n

/-- Do the pieces use nothing but what is known of the names? -/
def coveredAll (Γ : Names) : List Node → Bool
  | [] => true
  | n :: ns => n.covered Γ && coveredAll Γ ns
termination_by structural ns => ns

end

/-- A condition that counts as true says more about its name. -/
theorem Scope.Fits.given (hs : s.Fits Γ) {condition : Expr} (hv : condition.value s = .ok v)
    (htrue : v.truthy = true) : s.Fits (Γ.given condition) := by
  unfold Names.given
  split
  · rename_i x
    split
    · rename_i shape hx
      obtain ⟨w, hw, hfits⟩ := hs.names x _ hx
      have hsame : w = v := by
        rw [Expr.value, Expr.eval, hw] at hv
        exact Except.ok.inj hv
      exact hs.learn hw (hfits (hsame ▸ htrue))
    · exact hs
  · exact hs

/-- Does an item pass the filter of a repetition? -/
def passes (x : String) (filter : Option Expr) (s : Scope) (v : Value) : Except Cause Bool :=
  match filter with
  | none => .ok true
  | some f => f.holds (s.bind x v s.last)

theorem passes_ok (hs : s.Fits Γ) (hv : shape.Fits v) {filter : Option Expr}
    (h : (filter.all fun f => (f.shape? ((x, shape) :: Γ)).isSome) = true) :
    ∃ b, passes x filter s v = .ok b := by
  cases filter with
  | none => exact ⟨true, rfl⟩
  | some f =>
    obtain ⟨shape', hf⟩ := Option.isSome_iff_exists.1 h
    obtain ⟨w, -, -, hholds⟩ := Expr.holds_of_shape (hs.bind hv hs.last) hf
    exact ⟨w.truthy, hholds⟩

/-- Where it is known of all items whether they are kept, it is known whether one is left. -/
theorem noneLeft_ok {keep : Value → Except Cause Bool} {items : List Value}
    (hkeep : ∀ v ∈ items, ∃ b, keep v = .ok b) : ∃ b, noneLeft keep items = .ok b := by
  induction items with
  | nil => exact ⟨true, rfl⟩
  | cons v items ih =>
    obtain ⟨⟨b, hb⟩, hrest⟩ := List.forall_mem_cons.1 hkeep
    rw [noneLeft, hb]
    cases b with
    | true => exact ⟨false, rfl⟩
    | false => exact ih hrest

/-- A repetition is rendered if each item is. -/
theorem repeated_ok {keep : Value → Except Cause Bool}
    (body : Value → Except Cause Bool → Except Cause String) {items : List Value}
    (hkeep : ∀ v ∈ items, ∃ b, keep v = .ok b)
    (hbody : ∀ v ∈ items, ∀ b, ∃ text, body v (.ok b) = .ok text) :
    ∃ r, repeated keep body items = .ok r := by
  induction items with
  | nil => exact ⟨_, rfl⟩
  | cons v items ih =>
    obtain ⟨⟨kept, hkept⟩, hkeeps⟩ := List.forall_mem_cons.1 hkeep
    obtain ⟨hv, hbodies⟩ := List.forall_mem_cons.1 hbody
    obtain ⟨⟨texts, any⟩, hrest⟩ := ih hkeeps hbodies
    rw [repeated, hkept]
    cases kept with
    | true =>
      -- whether an item is the last depends on the filter alone, which has a result for each
      obtain ⟨b, hb⟩ := noneLeft_ok hkeeps
      obtain ⟨text, htext⟩ := hv b
      refine ⟨(text ++ texts, true), ?_⟩
      rw [hb, hrest]
      show (body v (.ok b) >>= _) = _
      rw [htext]
      rfl
    | false => exact ⟨(texts, any), hrest⟩

mutual

/-- **A piece that is covered is rendered**, whatever the values are that fit. -/
theorem Node.render_of_covered : ∀ (n : Node) {Γ : Names} {s : Scope}, s.Fits Γ →
    n.covered Γ = true → ∃ text, n.render s = .ok text
  | .text t, _, _, _, _ => ⟨t, rfl⟩
  | .print e, Γ, s, hs, h => by
    obtain ⟨shape, he⟩ := Option.isSome_iff_exists.1 h
    obtain ⟨v, hv, -⟩ := Expr.value_of_shape hs he
    exact ⟨v.plain, by rw [Node.render, hv]; rfl⟩
  | .branch condition body, Γ, s, hs, h => by
    rw [Node.covered, Bool.and_eq_true] at h
    obtain ⟨shape, hcondition⟩ := Option.isSome_iff_exists.1 h.1
    obtain ⟨v, hv, -, hholds⟩ := Expr.holds_of_shape hs hcondition
    rw [Node.render, hholds]
    cases htrue : v.truthy with
    | false => exact ⟨"", rfl⟩
    | true => exact renderAll_of_covered body (hs.given hv htrue) h.2
  | .each x items filter body otherwise, Γ, s, hs, h => by
    rw [Node.covered] at h
    split at h
    · rename_i item hitems
      rw [Bool.and_eq_true, Bool.and_eq_true] at h
      obtain ⟨⟨hfilter, hbody⟩, hotherwise⟩ := h
      obtain ⟨v, hv, values, rfl, hvalues⟩ := Expr.value_of_shape hs hitems
      obtain ⟨⟨text, any⟩, htext⟩ := repeated_ok (fun w last => renderAll body (s.bind x w last))
        (fun w hw => passes_ok hs (hvalues w hw) hfilter)
        fun w hw b => renderAll_of_covered body (hs.bind (hvalues w hw) ⟨b, rfl⟩) hbody
      obtain ⟨other, hother⟩ := renderAll_of_covered otherwise hs hotherwise
      rw [Node.render, hv]
      show ∃ t, (repeated (passes x filter s) _ values >>= _) = .ok t
      rw [htext]
      cases any with
      | true => exact ⟨text, rfl⟩
      | false => exact ⟨other, hother⟩
    · cases h
  | .call arguments body, Γ, s, hs, h => by
    rw [Node.covered] at h
    split at h
    · rename_i shapes hshapes
      obtain ⟨vs, hvs, hall⟩ := evalAll_of_shapes hs _ hshapes
      rw [Node.render, hvs]
      exact renderAll_of_covered body (Scope.fits_zip hall _) h
    · cases h
termination_by structural n => n

/-- Pieces that are covered are rendered. -/
theorem renderAll_of_covered : ∀ (ns : List Node) {Γ : Names} {s : Scope}, s.Fits Γ →
    coveredAll Γ ns = true → ∃ text, renderAll ns s = .ok text
  | [], _, _, _, _ => ⟨"", rfl⟩
  | n :: ns, Γ, s, hs, h => by
    rw [coveredAll, Bool.and_eq_true] at h
    obtain ⟨text, htext⟩ := Node.render_of_covered n hs h.1
    obtain ⟨texts, htexts⟩ := renderAll_of_covered ns hs h.2
    exact ⟨text ++ texts, by rw [renderAll, htext, htexts]; rfl⟩
termination_by structural ns => ns

end

end SoapStubs.Template
