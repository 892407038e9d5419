import SoapStubs.Console.Colour

/-!
# Styles

A style is given by words: attributes such as `bold`, with `not` before them to switch them off,
a colour, a colour of the ground after `on`, and an address after `link`.

* `Style` is the type, `Style.read` reads words and `Style.shown` writes a style;
* `Style.normal` is the definition of a style in normal form: definitions of one style have the
  same.
-/

namespace SoapStubs.Console

/-- An attribute of a style. -/
inductive Attribute where
  | bold
  | dim
  | italic
  | underline
  | blink
  | blink2
  | reverse
  | conceal
  | strike
  /-- With two lines below. -/
  | underline2
  | frame
  | encircle
  | overline
  deriving DecidableEq, Repr, Inhabited

namespace Attribute

/-- The attributes, in the order in which they are written. -/
def all : List Attribute :=
  [.bold, .dim, .italic, .underline, .blink, .blink2, .reverse, .conceal, .strike, .underline2,
    .frame, .encircle, .overline]

/-- The word of an attribute. -/
def label : Attribute → String
  | .bold => "bold"
  | .dim => "dim"
  | .italic => "italic"
  | .underline => "underline"
  | .blink => "blink"
  | .blink2 => "blink2"
  | .reverse => "reverse"
  | .conceal => "conceal"
  | .strike => "strike"
  | .underline2 => "underline2"
  | .frame => "frame"
  | .encircle => "encircle"
  | .overline => "overline"

def shortWords : List (String × Attribute) :=
  [("b", .bold), ("d", .dim), ("i", .italic), ("u", .underline), ("r", .reverse),
    ("c", .conceal), ("s", .strike), ("uu", .underline2), ("o", .overline)]

def ofWord? (word : String) : Option Attribute :=
  match all.find? (·.label == word) with
  | some a => some a
  | none => shortWords.lookup word

end Attribute

/-- A style. -/
structure Style where
  attributes : List (Attribute × Bool) := []
  colour : Option String := none
  ground : Option String := none
  link : Option String := none
  deriving DecidableEq, Repr, Inhabited

namespace Style

/-- The style with an attribute switched on or off. -/
def switch (s : Style) (a : Attribute) (on : Bool) : Style :=
  { s with attributes := (a, on) :: s.attributes }

/-- The style with what words add to it, if they are words of a style. -/
def read (s : Style) : List String → Except Cause (Option Style)
  | [] => .ok (some s)
  | word :: rest =>
    let small := Text.lower word
    if small = "on" then
      match rest with
      | [] => .ok none
      | ground :: rest => do
        match ← Colour.read ground with
        | some colour => read { s with ground := some colour } rest
        | none => return none
    else if small = "not" then
      match rest with
      | [] => .ok none
      | name :: rest =>
        match Attribute.ofWord? name with
        | some a => read (s.switch a false) rest
        | none => .ok none
    else if small = "link" then
      match rest with
      | [] => .ok none
      | address :: rest => read { s with link := some address } rest
    else
      match Attribute.ofWord? small with
      | some a => read (s.switch a true) rest
      | none => do
        match ← Colour.read small with
        | some colour => read { s with colour := some colour } rest
        | none => return none

def ofText (definition : String) : Except Cause (Option Style) :=
  if Text.strip definition = "none" then .ok (some {}) else read {} (Text.words definition)

/-- An attribute of the style in words. -/
def attributeText (s : Style) (a : Attribute) : Option String :=
  (s.attributes.lookup a).map fun on => if on then a.label else "not " ++ a.label

/-- The style in words. -/
def shown (s : Style) : String :=
  let words := Attribute.all.filterMap s.attributeText ++ s.colour.toList ++
    (s.ground.map ("on " ++ ·)).toList ++ (s.link.map ("link " ++ ·)).toList
  if words.isEmpty then "none" else Text.join " " words

/-- A definition in normal form; what defines no style is put into small letters. -/
def normal (definition : String) : Except Cause String := do
  match ← ofText definition with
  | some s => return s.shown
  | none => return Text.lower (Text.strip definition)

end Style

end SoapStubs.Console
