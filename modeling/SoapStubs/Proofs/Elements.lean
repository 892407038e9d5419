import SoapStubs.Proofs.RuleSets

/-!
# Element types, resolved again

The type of the elements of a repeated member is an identifier, so it can be resolved like a name
from a model.  A class gives itself then, as conversion settles names.  In the modern variant a
primitive type gives its box, and that is a class of the package `java.lang`, which was not asked of
the rules: if they move this package, then the box does not give itself.

* `Resolver.primitives` are the primitive types, and `Resolver.mem_primitives_resolveName` says
  which names resolve to one;
* `Rule.MovesBoxes` says that rules move the package of the boxes, and
  `Resolver.resolvePackage_boxes` that these are the rules that do;
* `Resolver.resolveElement_settles_iff`: the type of elements gives itself, but for the box of a
  primitive type that the rules move; `Resolver.resolveElement_moves_box` is such a case.
-/

namespace SoapStubs

/-- The rules in force move the package of the boxes: there is one for the package itself that
changes something, or one for the package above it, and then there is none for the package itself
and none that moves another package there. -/
def Rule.MovesBoxes (rules : List Rule) : Prop :=
  ∃ rule ∈ inForce rules, rule.source ≠ rule.target ∧
    (rule.source = "java.lang" ∨
      rule.source = "java" ∧ ∀ other ∈ inForce rules,
        other.source ≠ "java.lang" ∧ (other.source ≠ other.target → other.target ≠ "java.lang"))

namespace Resolver

variable {rules : List Rule} {r : Resolver} {name type : String}

/-! ### Primitive types and their boxes -/

/-- The primitive types. -/
def primitives : List String := boxes.map Prod.fst

theorem box_cases (type : String) :
    (type ∉ primitives ∧ box type = type) ∨ (type, box type) ∈ boxes := by
  rw [box]
  cases hlookup : boxes.lookup type with
  | none =>
    refine .inl ⟨fun hmem => ?_, rfl⟩
    obtain ⟨b, hb, rfl⟩ := List.mem_map.1 hmem
    exact absurd (List.lookup_eq_none_iff.1 hlookup b hb) (by simp)
  | some b =>
    obtain ⟨front, back, heq, -⟩ := List.lookup_eq_some_iff.1 hlookup
    exact .inr (by simp [heq])

theorem box_of_notMem (h : type ∉ primitives) : box type = type := by
  rcases box_cases type with ⟨-, hbox⟩ | hbox
  · exact hbox
  · exact absurd (List.mem_map_of_mem hbox) h

theorem dot_not_mem_primitive : ∀ p ∈ primitives, '.' ∉ p.toList := by decide

/-- All boxes are classes of one package. -/
theorem package_of_mem_boxes : ∀ b ∈ boxes, Name.package b.2 = "java.lang" := by decide

theorem notMem_primitives (h : Name.package type ≠ "") : type ∉ primitives := by
  intro hmem
  have hsplit := Text.splitLast_of_not_mem (dot_not_mem_primitive type hmem)
  exact h (congrArg Prod.fst hsplit)

/-- The names of primitive types are these and those with a dot in front of them. -/
theorem mem_primitives_resolveName (hr : r.Lawful) :
    r.resolveName name ∈ primitives ↔ ∃ p ∈ primitives, name = p ∨ name = "." ++ p := by
  constructor
  · intro hmem
    have hpackage : Name.package name = "" := by
      by_contra hne
      refine notMem_primitives ?_ hmem
      rw [package_resolveName]
      exact resolvePackage_ne_empty hr hne
    have hsimple : r.resolveName name = Name.simple name := by
      rw [resolveName_eq, hpackage]
      rfl
    rw [hsimple] at hmem
    refine ⟨Name.simple name, hmem, ?_⟩
    rcases Name.eq_simple_or name with ⟨-, heq⟩ | heq
    · exact .inl heq
    · rw [hpackage, String.empty_append] at heq
      exact .inr heq
  · rintro ⟨p, hp, hname⟩
    have hsplit : Name.split name = ("", p) := by
      rcases hname with rfl | rfl
      · exact Text.splitLast_of_not_mem (dot_not_mem_primitive _ hp)
      · exact Text.splitLast_append "" (dot_not_mem_primitive p hp)
    rw [resolveName, hsplit]
    exact hp

/-! ### Rules that move the boxes -/

/-- A package is moved elsewhere by the conversion with the longest source. -/
theorem longest_of_moved (hr : r.Lawful) {package : String}
    (h : r.resolvePackage package ≠ package) :
    ∃ c, r.Longest (Name.segments package) c ∧ c.1 ≠ c.2 ∧
      ∀ d ∈ r.changes, ¬d.2 <+: Name.segments package := by
  have hne := Name.segments_injective.ne h
  have hconverts := r.resolvePackage_converts hr package
  generalize Name.segments (r.resolvePackage package) = b at hconverts hne
  generalize Name.segments package = a at hconverts hne ⊢
  cases hconverts with
  | resolved | untouched => exact absurd rfl hne
  | @moved c rest hfree hc =>
    refine ⟨c, hc, fun hsame => hne ?_, hfree⟩
    rw [hsame]

/-- Only two packages have that of the boxes under them. -/
theorem eq_of_under_boxes {upper : String} (h : Name.Under "java.lang" upper) (hne : upper ≠ "") :
    upper = "java" ∨ upper = "java.lang" := by
  have hprefix : Name.segments upper <+: ["java", "lang"] := h
  have hsegments : Name.segments upper ≠ [] := mt Name.segments_eq_nil_iff.1 hne
  rw [List.prefix_cons_iff] at hprefix
  rcases hprefix with hnil | ⟨rest, hupper, hrest⟩
  · exact absurd hnil hsegments
  rcases List.prefix_cons_iff.1 hrest with rfl | ⟨rest', rfl, hnil⟩
  · exact .inl (Name.segments_injective hupper)
  · rw [List.prefix_nil.1 hnil] at hupper
    exact .inr (Name.segments_injective hupper)

theorem source_ne_empty (h : Accepted rules r) {rule : Rule} (hrule : rule ∈ Rule.inForce rules) :
    rule.source ≠ "" := fun hempty =>
  h.lawful.source _ (h.mem_conversions hrule) (Name.segments_eq_nil_iff.2 hempty)

theorem target_ne_empty (h : Accepted rules r) {rule : Rule} (hrule : rule ∈ Rule.inForce rules) :
    rule.target ≠ "" := by
  intro hempty
  obtain ⟨part, parts, heq, -⟩ := h.lawful.target _ (h.mem_conversions hrule)
  rw [Rule.conversion, Name.segments_eq_nil_iff.2 hempty] at heq
  cases heq

theorem movesBoxes_of_moved (h : Accepted rules r)
    (hmoved : r.resolvePackage "java.lang" ≠ "java.lang") : Rule.MovesBoxes rules := by
  obtain ⟨c, hlongest, hne, hfree⟩ := longest_of_moved h.lawful hmoved
  obtain ⟨rule, hrule, rfl⟩ := h.conversions.1 hlongest.mem
  have hchange : rule.source ≠ rule.target := fun hsame => hne (congrArg Name.segments hsame)
  refine ⟨rule, hrule, hchange, ?_⟩
  rcases eq_of_under_boxes hlongest.under (source_ne_empty h hrule) with hjava | hlang
  swap
  · exact .inl hlang
  refine .inr ⟨hjava, fun other hother => ⟨fun heq => ?_, fun hchange' heq => ?_⟩⟩
  · -- the longer source would be the longest
    have hlength := hlongest.longest _ (h.mem_conversions hother) (by rw [Rule.conversion, heq])
    have hdepth : Name.depth "java.lang" ≤ Name.depth "java" := by
      rwa [Rule.conversion, Rule.conversion, heq, hjava] at hlength
    exact absurd hdepth (by decide)
  · refine hfree _ (h.mem_changes hother hchange') ?_
    rw [Rule.conversion, heq]

/-- A rule for `java` moves the boxes if no rule is for their package or moves into it. -/
theorem converts_boxes (h : Accepted rules r) {rule : Rule} (hrule : rule ∈ Rule.inForce rules)
    (hjava : rule.source = "java") (hothers : ∀ other ∈ Rule.inForce rules,
      other.source ≠ "java.lang" ∧ (other.source ≠ other.target → other.target ≠ "java.lang")) :
    r.Converts (Name.segments (rule.source ++ "." ++ "lang"))
      (Name.segments (rule.target ++ "." ++ "lang")) := by
  refine h.converts_below hrule ?_ ?_
  · intro other hother hunder
    rw [hjava] at hunder
    rcases eq_of_under_boxes hunder (source_ne_empty h hother) with heq | heq
    · rw [heq, hjava]
    · exact absurd heq (hothers other hother).1
  · intro other hother hchange hunder
    rw [hjava] at hunder
    rcases eq_of_under_boxes hunder (target_ne_empty h hother) with heq | heq
    · refine h.unchained _ (h.mem_conversions hrule) _ (h.mem_changes hother hchange) ?_
      rw [Rule.conversion, Rule.conversion, heq, hjava]
    · exact (hothers other hother).2 hchange heq

/-- **Which rules move the boxes.** -/
theorem resolvePackage_boxes (h : Accepted rules r) :
    r.resolvePackage "java.lang" ≠ "java.lang" ↔ Rule.MovesBoxes rules := by
  refine ⟨movesBoxes_of_moved h, ?_⟩
  rintro ⟨rule, hrule, hchange, hlang | ⟨hjava, hothers⟩⟩
  · have hmoved := resolvePackage_eq_of_converts h.lawful (h.converts_source hrule)
    rw [← hlang, hmoved]
    exact Ne.symm hchange
  · have hmoved := resolvePackage_eq_of_converts h.lawful (converts_boxes h hrule hjava hothers)
    rw [hjava] at hmoved hchange
    rw [show "java.lang" = "java" ++ "." ++ "lang" from rfl, hmoved]
    intro heq
    exact hchange (String.append_left_inj _ |>.1 (String.append_left_inj _ |>.1 heq)).symm

/-! ### Element types -/

theorem resolveElement_ok (r : Resolver) {ref : TypeRef} (hname : ref.qualifiedName = .text name)
    (hne : name ≠ "") (v : Variant) :
    r.resolveElement ref v = .ok (elementIn v (r.resolveName name)) := by
  rw [resolveElement, r.resolve_ok hname hne]
  rfl

/-- A box that is resolved is a class of the package that the rules move its package to. -/
theorem resolveElement_box (hr : r.Lawful) {b : String × String} (hb : b ∈ boxes) :
    r.resolveElement ⟨.text b.2, .bool true⟩ .modern =
      .ok (Name.qualify (r.resolvePackage "java.lang") (Name.simple b.2)) := by
  have hne : ∀ b ∈ boxes, b.2 ≠ "" := by decide
  have hname : r.resolveName b.2 =
      Name.qualify (r.resolvePackage "java.lang") (Name.simple b.2) := by
    rw [resolveName_eq, package_of_mem_boxes b hb]
  have hbox : box (r.resolveName b.2) = r.resolveName b.2 := by
    refine box_of_notMem (notMem_primitives ?_)
    rw [package_resolveName, package_of_mem_boxes b hb]
    exact resolvePackage_ne_empty hr (by decide)
  rw [r.resolveElement_ok rfl (hne b hb), ← hname]
  exact congrArg Except.ok hbox

theorem resolveName_ne_empty (hr : r.Lawful) (hne : name ≠ "") (hdot : name ≠ ".") :
    r.resolveName name ≠ "" := by
  rw [resolveName_eq]
  exact Name.qualify_ne_empty hne hdot fun hp => resolvePackage_ne_empty hr hp

/-- A type that is not boxed settles as its name does. -/
theorem resolveElement_of_elementIn (hr : r.Lawful) {v : Variant}
    (h : elementIn v (r.resolveName name) = r.resolveName name) (hne : r.resolveName name ≠ "") :
    r.resolveElement ⟨.text (r.resolveName name), .bool true⟩ v = .ok (r.resolveName name) := by
  rw [r.resolveElement_ok rfl hne, resolveName_resolveName hr, h]

/-- A class that is put into a package is itself if that is its package. -/
theorem qualify_eq_self_iff {package upper : String} (h : Name.package type = package)
    (hne : package ≠ "") : upper = package ↔ Name.qualify upper (Name.simple type) = type := by
  constructor
  · rintro rfl
    rcases Name.eq_simple_or type with ⟨hempty, -⟩ | heq
    · exact absurd (h.symm.trans hempty) hne
    · rw [Name.qualify, if_neg hne, ← h, ← heq]
  · intro heq
    rw [← h, ← heq, Name.package_qualify _ (Name.dot_not_mem_simple type)]

/-- **The type of elements, resolved again.**  Under accepted rules, every name but the empty one
and the dot alone has a type of elements, and so has this type.  It is the same, unless the variant
is the modern one, the name is that of a primitive type, and the rules move the package of the
boxes; then it is the class of that name in the package they move it to. -/
theorem resolveElement_settles_iff (hr : ofRules rules = .ok r) (v : Variant) {ref : TypeRef}
    (hname : ref.qualifiedName = .text name) (hne : name ≠ "") (hdot : name ≠ ".") :
    ∃ once twice, r.resolveElement ref v = .ok once ∧
      r.resolveElement ⟨.text once, .bool true⟩ v = .ok twice ∧
      (twice = once ↔ ¬(v = .modern ∧ (∃ p ∈ primitives, name = p ∨ name = "." ++ p) ∧
        Rule.MovesBoxes rules)) ∧
      (twice ≠ once → once ∈ boxes.map Prod.snd ∧
        twice = Name.qualify (r.resolvePackage "java.lang") (Name.simple once)) := by
  have haccepted := accepted_of_ofRules hr
  have hlawful := haccepted.lawful
  have hid := resolveName_ne_empty hlawful hne hdot
  have honce := r.resolveElement_ok hname hne v
  rw [← mem_primitives_resolveName hlawful, ← resolvePackage_boxes haccepted]
  by_cases hboxed : v = .modern ∧ r.resolveName name ∈ primitives
  · obtain ⟨rfl, hprimitive⟩ := hboxed
    have hmem : (r.resolveName name, box (r.resolveName name)) ∈ boxes :=
      (box_cases _).resolve_left fun h => h.1 hprimitive
    have hbox : r.resolveElement ref .modern = .ok (box (r.resolveName name)) := honce
    have htwice := resolveElement_box hlawful hmem
    have hpackage := package_of_mem_boxes _ hmem
    generalize box (r.resolveName name) = b at hmem hbox htwice hpackage
    dsimp only at htwice hpackage
    refine ⟨b, _, hbox, htwice, ?_, fun _ => ⟨List.mem_map_of_mem (f := Prod.snd) hmem, rfl⟩⟩
    rw [← qualify_eq_self_iff hpackage (by decide), and_iff_right rfl, and_iff_right hprimitive,
      not_not]
  · have hsame : elementIn v (r.resolveName name) = r.resolveName name := by
      cases v with
      | legacy => rfl
      | modern => exact box_of_notMem fun hmem => hboxed ⟨rfl, hmem⟩
    rw [hsame] at honce
    refine ⟨_, _, honce, resolveElement_of_elementIn hlawful hsame hid, ?_, fun h => absurd rfl h⟩
    exact iff_of_true rfl fun h => hboxed ⟨h.1, h.2.1⟩

/-- The first rule would move the package of the boxes, but the second moves another one there. -/
def boxRules : List Rule := [⟨"java", "com.client"⟩, ⟨"org.box", "java.lang"⟩]

/-- These rules move other packages below the first source, and a box stays where it is. -/
theorem resolveElement_settles_iff_boxRules : ∃ r, ofRules boxRules = .ok r ∧
    (∃ once twice, r.resolveElement ⟨.text ".int", .bool true⟩ .modern = .ok once ∧
      r.resolveElement ⟨.text once, .bool true⟩ .modern = .ok twice ∧
      (twice = once ↔ ¬(Variant.modern = .modern ∧
        (∃ p ∈ primitives, ".int" = p ∨ ".int" = "." ++ p) ∧ Rule.MovesBoxes boxRules)) ∧
      (twice ≠ once → once ∈ boxes.map Prod.snd ∧
        twice = Name.qualify (r.resolvePackage "java.lang") (Name.simple once))) ∧
    r.resolvePackage "java.util" = "com.client.util" ∧ r.resolvePackage "java.lang" = "java.lang" :=
  ⟨⟨conversionsOf boxRules⟩, rfl,
    resolveElement_settles_iff (show ofRules boxRules = .ok _ from rfl) .modern rfl (by decide)
      (by decide), by decide, by decide⟩

/-- **A box that does not give itself**: the rule moves the class that a primitive type gives. -/
theorem resolveElement_moves_box : ∃ r, ofRules [⟨"java.lang", "com.client"⟩] = .ok r ∧
    r.resolveElement ⟨.text "int", .bool true⟩ .modern = .ok "java.lang.Integer" ∧
    r.resolveElement ⟨.text "java.lang.Integer", .bool true⟩ .modern = .ok "com.client.Integer" :=
  ⟨⟨conversionsOf [⟨"java.lang", "com.client"⟩]⟩, rfl, rfl, rfl⟩

end Resolver

end SoapStubs
