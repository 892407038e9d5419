import SoapStubs.Value.Access

/-!
# Templates

Texts with places that are filled from bindings.  A name that is not bound may be handed on, and
is an error where its value is used.

* `Expr` is an expression over bindings, `Expr.eval` its meaning;
* `Node` is a piece of a template, `Node.render` its text;
* `Scope` holds what names stand for, and inside a repetition whether the current item is the last
  one.  The latter looks ahead, so it may fail where the choice of the next item fails.
-/

namespace SoapStubs.Template

/-- An expression over bindings. -/
inductive Expr where
  | text (s : String)
  | name (x : String)
  | member (e : Expr) (x : String)
  /-- The first value if it counts as true, else the second. -/
  | either (a b : Expr)
  /-- The first value if the condition counts as true, else the second. -/
  | choose (condition a b : Expr)
  /-- Does the value not count as true? -/
  | negate (e : Expr)
  | concat (es : List Expr)
  /-- The text with its first character in upper case. -/
  | capitalize (e : Expr)
  /-- The value's text in upper case. -/
  | upper (e : Expr)
  /-- The items' texts with a separator between them. -/
  | join (separator : String) (e : Expr)
  /-- Is the current item the last one? -/
  | last

/-- A piece of a template. -/
inductive Node where
  | text (s : String)
  | print (e : Expr)
  /-- Pieces that are there if the condition counts as true. -/
  | branch (condition : Expr) (body : List Node)
  /-- Pieces for each item that passes the filter, or others if none does. -/
  | each (x : String) (items : Expr) (filter : Option Expr) (body otherwise : List Node)
  /-- Pieces that see their arguments only. -/
  | call (arguments : List (String × Expr)) (body : List Node)

/-- What an expression gives: a value, or something that must not be used. -/
inductive Seen where
  | value (v : Value)
  /-- Something undefined, with the reason. -/
  | undefined (reason : String)
  deriving Inhabited

def Seen.use : Seen → Except Cause Value
  | .value v => .ok v
  | .undefined reason => .error (.undefined reason)

/-- What names stand for. -/
structure Scope where
  names : List (String × Seen)
  /-- Inside a repetition: is the current item the last one? -/
  last : Except Cause Bool := .ok true

namespace Scope

def ofBindings (bindings : List (String × Value)) : Scope :=
  ⟨bindings.map fun (x, v) => (x, .value v), .ok true⟩

/-- Names that always stand for something, and how it is printed. -/
def builtin : List (String × String) := [("namespace", "<class 'jinja2.utils.Namespace'>")]

/-- What a name stands for. -/
def look (s : Scope) (x : String) : Seen :=
  match s.names.lookup x with
  | some seen => seen
  | none =>
    match builtin.lookup x with
    | some shown => .value (.text shown)
    | none => .undefined (Text.quote x ++ " is undefined")

/-- The scope with one more name. -/
def bind (s : Scope) (x : String) (v : Value) (last : Except Cause Bool) : Scope :=
  ⟨(x, .value v) :: s.names, last⟩

end Scope

/-- How a value is called where it lacks a member. -/
def typeText : Value → String
  | .null => "None"
  | v => v.fullTypeName ++ " object"

def member (v : Value) (x : String) : Seen :=
  match v.field? x with
  | some w => .value w
  | none => .undefined (Text.quote (typeText v) ++ " has no attribute " ++ Text.quote x)

/-! ### Meaning of expressions -/

mutual

/-- What an expression gives. -/
def Expr.eval : Expr → Scope → Except Cause Seen
  | .text t, _ => .ok (.value (.text t))
  | .name x, s => .ok (s.look x)
  | .member e x, s => do return member (← (← e.eval s).use) x
  | .either a b, s => do
    let v ← (← a.eval s).use
    if v.truthy then return .value v else b.eval s
  | .choose c a b, s => do
    let v ← (← c.eval s).use
    if v.truthy then a.eval s else b.eval s
  | .negate e, s => do return .value (.bool !(← (← e.eval s).use).truthy)
  | .concat es, s => do
    let values ← (← evalAll es s).mapM Seen.use
    return .value (.text (Text.concat (values.map Value.plain)))
  | .capitalize e, s => do return .value (.text (← (← (← e.eval s).use).capitalized))
  | .upper e, s => do return .value (.text (Text.upper (← (← e.eval s).use).plain))
  | .join separator e, s => do
    let items ← (← (← e.eval s).use).elements
    return .value (.text (Text.join separator (items.map Value.plain)))
  | .last, s => do return .value (.bool (← s.last))
termination_by structural e => e

/-- What expressions give. -/
def evalAll : List Expr → Scope → Except Cause (List Seen)
  | [], _ => .ok []
  | e :: es, s => do return (← e.eval s) :: (← evalAll es s)
termination_by structural es => es

end

def Expr.value (e : Expr) (s : Scope) : Except Cause Value := do (← e.eval s).use

/-- Does the value of an expression count as true? -/
def Expr.holds (e : Expr) (s : Scope) : Except Cause Bool := do return (← e.value s).truthy

/-! ### Meaning of pieces -/

/-- Is there no item left that passes the filter? -/
def noneLeft (keep : Value → Except Cause Bool) : List Value → Except Cause Bool
  | [] => .ok true
  | v :: rest => do if ← keep v then return false else noneLeft keep rest

/-- The text for each item that passes the filter, and whether there was one. -/
def repeated (keep : Value → Except Cause Bool)
    (body : Value → Except Cause Bool → Except Cause String) :
    List Value → Except Cause (String × Bool)
  | [] => .ok ("", false)
  | v :: rest => do
    if ← keep v then
      let text ← body v (noneLeft keep rest)
      let (texts, _) ← repeated keep body rest
      return (text ++ texts, true)
    else repeated keep body rest

mutual

/-- The text of a piece. -/
def Node.render : Node → Scope → Except Cause String
  | .text t, _ => .ok t
  | .print e, s => do return (← e.value s).plain
  | .branch condition body, s => do if ← condition.holds s then renderAll body s else return ""
  | .each x items filter body otherwise, s => do
    let values ← (← items.value s).elements
    let keep (v : Value) : Except Cause Bool :=
      match filter with
      | none => .ok true
      | some f => f.holds (s.bind x v s.last)
    let (text, any) ← repeated keep (fun v last => renderAll body (s.bind x v last)) values
    if any then return text else renderAll otherwise s
  | .call arguments body, s => do
    let seen ← evalAll (arguments.map Prod.snd) s
    renderAll body ⟨(arguments.map Prod.fst).zip seen, .ok true⟩
termination_by structural n => n

/-- The text of pieces in a row. -/
def renderAll : List Node → Scope → Except Cause String
  | [], _ => .ok ""
  | n :: ns, s => do return (← n.render s) ++ (← renderAll ns s)
termination_by structural ns => ns

end

end SoapStubs.Template
