import Mathlib.Data.List.Infix
import Mathlib.Data.List.Nodup
import SoapStubs.Conversion
import SoapStubs.Proofs.Name
import SoapStubs.Proofs.Ordered
import SoapStubs.Proofs.Outcome

/-!
# Conversion settles names

What conversion does to a package, said without the search for the best rule, and that it does
nothing more when it is done again.

* `Resolver.Converts` relates the segments of a package to those it is moved to: a package under a
  target stays, and else the longest source counts;
* `Resolver.Converts.settled` says that a package that was moved stays where it is;
* `Resolver.resolve_settles` is about qualified names.  They may be any texts; only the empty one
  and the dot alone have no identifier.
-/

namespace SoapStubs

theorem Ordered.mem_of_mem_putAll {κ α : Type} [BEq κ] [LawfulBEq κ] {m : Ordered κ α}
    {pairs : List (κ × α)} {p : κ × α} (h : p ∈ m.putAll pairs) : p ∈ m ∨ p ∈ pairs := by
  induction pairs generalizing m with
  | nil => exact .inl h
  | cons q pairs ih =>
    rcases ih (m := m.put q.1 q.2) h with h | h
    · rcases mem_put h with h | rfl | ⟨hvalue, hkey, -⟩
      · exact .inl h
      · exact .inr List.mem_cons_self
      · have hp : p = q := Prod.ext (eq_of_beq hkey) hvalue
        exact .inr (hp ▸ List.mem_cons_self)
    · exact .inr (List.mem_cons_of_mem _ h)

namespace Rule

theorem ne_empty_of_isSegment {s : String} (h : isSegment s = true) : s ≠ "" := by
  rintro rfl
  cases h

/-- A dotted identifier has segments, and the first one is a name. -/
theorem segments_of_isDotted {package : String} (h : isDotted package = true) :
    ∃ part parts, Name.segments package = part :: parts ∧ part ≠ "" := by
  rw [isDotted, Bool.and_eq_true, bne_iff_ne, List.all_eq_true] at h
  obtain ⟨hne, hall⟩ := h
  rw [Name.segments, if_neg hne]
  cases hsplit : Text.split '.' package with
  | nil => exact absurd hsplit (Text.split_ne_nil _ _)
  | cons part parts =>
    exact ⟨part, parts, rfl, ne_empty_of_isSegment (hall part (hsplit ▸ List.mem_cons_self))⟩

theorem isDotted_of_check {r : Rule} (h : r.check = .ok ()) :
    isDotted r.source = true ∧ isDotted r.target = true := by
  unfold check at h
  split_ifs at h with hsource htarget
  exact ⟨by simpa using hsource, by simpa using htarget⟩

end Rule

namespace Resolver

variable {r : Resolver} {a b : List String} {c : List String × List String}

/-! ### Accepted rules -/

/-- What is known of conversions whose rules were accepted. -/
structure Lawful (r : Resolver) : Prop where
  /-- No source has two targets. -/
  distinct : r.conversions.keys.Nodup
  /-- Every source has a segment. -/
  source : ∀ c ∈ r.conversions, c.1 ≠ []
  /-- Every target starts with a name. -/
  target : ∀ c ∈ r.conversions, ∃ part parts, c.2 = part :: parts ∧ part ≠ ""
  /-- The segments of a target have no dots. -/
  dotless : ∀ c ∈ r.conversions, ∀ part ∈ c.2, '.' ∉ part.toList

theorem check_of_forM {rules : List Rule} (h : rules.forM Rule.check = .ok ()) :
    ∀ rule ∈ rules, rule.check = .ok () := by
  induction rules with
  | nil => simp
  | cons rule rules ih =>
    obtain ⟨⟨⟩, hrule, h⟩ := bind_eq_ok.1 h
    exact List.forall_mem_cons.2 ⟨hrule, ih h⟩

/-- Conversions are those of rules that were accepted. -/
theorem exists_rule_of_ofRules {rules : List Rule} (h : ofRules rules = .ok r) :
    r = ⟨conversionsOf rules⟩ ∧ ∀ c ∈ r.conversions, ∃ rule ∈ rules, rule.check = .ok () ∧
      c = (Name.segments rule.source, Name.segments rule.target) := by
  obtain ⟨⟨⟩, hcheck, h⟩ := bind_eq_ok.1 h
  dsimp only at h
  split at h
  · cases h
  cases h
  refine ⟨rfl, fun c hc => ?_⟩
  rcases Ordered.mem_of_mem_putAll hc with hc | hc
  · cases hc
  · obtain ⟨rule, hmem, rfl⟩ := List.mem_map.1 hc
    exact ⟨rule, hmem, check_of_forM hcheck rule hmem, rfl⟩

theorem lawful_of_ofRules {rules : List Rule} (h : ofRules rules = .ok r) : r.Lawful := by
  obtain ⟨rfl, hrule⟩ := exists_rule_of_ofRules h
  refine ⟨Ordered.nodup_keys_putAll (m := []) List.nodup_nil _, ?_, ?_, ?_⟩
  · intro c hc
    obtain ⟨rule, -, hok, rfl⟩ := hrule c hc
    obtain ⟨part, parts, heq, -⟩ := Rule.segments_of_isDotted (Rule.isDotted_of_check hok).1
    simp [heq]
  · intro c hc
    obtain ⟨rule, -, hok, rfl⟩ := hrule c hc
    exact Rule.segments_of_isDotted (Rule.isDotted_of_check hok).2
  · intro c hc part hpart
    obtain ⟨rule, -, -, rfl⟩ := hrule c hc
    exact Name.dot_not_mem_segment hpart

/-- A target starts with a name, so that the segments of a package that was moved come back. -/
theorem Lawful.segments_moved (hr : r.Lawful) (hc : c ∈ r.conversions) {rest : List String}
    (hrest : ∀ part ∈ rest, '.' ∉ part.toList) :
    Name.segments (Name.dotted (c.2 ++ rest)) = c.2 ++ rest := by
  obtain ⟨part, parts, htarget, hname⟩ := hr.target c hc
  have hparts := hr.dotless c hc
  rw [htarget] at hparts ⊢
  refine Name.segments_dotted hname fun p hp => ?_
  rcases (List.mem_append (s := part :: parts)).1 hp with hp | hp
  · exact hparts p hp
  · exact hrest p hp

/-! ### The longest source -/

/-- The package lies under the source of the conversion, and under no longer one. -/
structure Longest (r : Resolver) (a : List String) (c : List String × List String) : Prop where
  mem : c ∈ r.conversions
  /-- The package lies under its source. -/
  under : c.1 <+: a
  /-- Other such sources are not longer. -/
  longest : ∀ d ∈ r.conversions, d.1 <+: a → d.1.length ≤ c.1.length

theorem Longest.unique (hr : r.Lawful) (hc : r.Longest a c) {d : List String × List String}
    (hd : r.Longest a d) : c = d := by
  have hlength : c.1.length = d.1.length :=
    Nat.le_antisymm (hd.longest c hc.mem hc.under) (hc.longest d hd.mem hd.under)
  have hsource : c.1 = d.1 := by
    rw [List.prefix_iff_eq_take.1 hc.under, List.prefix_iff_eq_take.1 hd.under, hlength]
  exact List.inj_on_of_nodup_map hr.distinct hc.mem hd.mem hsource

theorem foldl_longer (b : List String × List String) (cs : List (List String × List String)) :
    ∃ c, cs.foldl longer (some b) = some c ∧ c ∈ b :: cs ∧
      ∀ d ∈ b :: cs, d.1.length ≤ c.1.length := by
  induction cs generalizing b with
  | nil => exact ⟨b, rfl, List.mem_cons_self, by simp⟩
  | cons d cs ih =>
    by_cases hlt : b.1.length < d.1.length
    · obtain ⟨c, hc, hmem, hmax⟩ := ih d
      refine ⟨c, by simpa [longer, hlt] using hc, List.mem_cons_of_mem _ hmem, ?_⟩
      have hd := hmax d List.mem_cons_self
      exact List.forall_mem_cons.2 ⟨by omega, hmax⟩
    · obtain ⟨c, hc, hmem, hmax⟩ := ih b
      obtain ⟨hb, hcs⟩ := List.forall_mem_cons.1 hmax
      refine ⟨c, by simpa [longer, hlt] using hc, ?_, ?_⟩
      · rcases List.mem_cons.1 hmem with rfl | hmem
        · exact List.mem_cons_self
        · exact List.mem_cons_of_mem _ (List.mem_cons_of_mem _ hmem)
      · exact List.forall_mem_cons.2 ⟨hb, List.forall_mem_cons.2 ⟨by omega, hcs⟩⟩

theorem best?_cases (r : Resolver) (a : List String) :
    (r.best? a = none ∧ ∀ c ∈ r.conversions, ¬c.1 <+: a) ∨
      ∃ c, r.best? a = some c ∧ r.Longest a c := by
  unfold best?
  have hmem : ∀ c, c ∈ r.conversions.filter (fun c => c.1.isPrefixOf a) ↔
      c ∈ r.conversions ∧ c.1 <+: a := by
    intro c
    rw [List.mem_filter, List.isPrefixOf_iff_prefix]
  cases hfilter : r.conversions.filter fun c => c.1.isPrefixOf a with
  | nil =>
    refine .inl ⟨rfl, fun c hc hunder => ?_⟩
    have := (hmem c).2 ⟨hc, hunder⟩
    rw [hfilter] at this
    cases this
  | cons b cs =>
    obtain ⟨c, hc, hin, hmax⟩ := foldl_longer b cs
    rw [hfilter] at hmem
    obtain ⟨hconv, hunder⟩ := (hmem c).1 hin
    exact .inr ⟨c, hc, hconv, hunder, fun d hd hunder' => hmax d ((hmem d).2 ⟨hd, hunder'⟩)⟩

/-! ### Converted packages -/

/-- Where the package with the segments `a` is moved to. -/
inductive Converts (r : Resolver) : List String → List String → Prop where
  /-- A package under a target stays. -/
  | resolved {a : List String} {c : List String × List String} (hc : c ∈ r.changes)
      (h : c.2 <+: a) : Converts r a a
  /-- A package under neither a target nor a source stays. -/
  | untouched {a : List String} (h : ∀ c ∈ r.conversions, ¬c.1 <+: a) : Converts r a a
  /-- Any other package has the longest source replaced by its target. -/
  | moved {c : List String × List String} {rest : List String}
      (h : ∀ d ∈ r.changes, ¬d.2 <+: c.1 ++ rest) (hc : r.Longest (c.1 ++ rest) c) :
      Converts r (c.1 ++ rest) (c.2 ++ rest)

theorem Converts.of_longest (h : ∀ d ∈ r.changes, ¬d.2 <+: a) (hc : r.Longest a c) :
    r.Converts a (c.2 ++ a.drop c.1.length) := by
  obtain ⟨rest, rfl⟩ := hc.under
  rw [List.drop_left]
  exact .moved h hc

/-- A package that was moved stays where it is. -/
theorem Converts.settled (hr : r.Lawful) (h : r.Converts a b) {b' : List String}
    (h' : r.Converts b b') : b' = b := by
  cases h' with
  | resolved | untouched => rfl
  | @moved d rest' hfree hd =>
    generalize heq : d.1 ++ rest' = x at h hfree hd
    cases h with
    | resolved hc hunder => exact absurd hunder (hfree _ hc)
    | untouched hnone => exact absurd hd.under (hnone d hd.mem)
    | @moved c rest _ hc =>
      by_cases hsame : c.1 = c.2
      · rw [← hsame] at heq hd
        obtain rfl := hd.unique hr hc
        rw [List.append_cancel_left heq]
      · have hchange : c ∈ r.changes := List.mem_filter.2 ⟨hc.mem, by simpa using hsame⟩
        exact absurd (List.prefix_append _ _) (hfree c hchange)

/-- A package is moved to one place only. -/
theorem Converts.unique (hr : r.Lawful) (h : r.Converts a b) {b' : List String}
    (h' : r.Converts a b') : b = b' := by
  generalize ha : a = a' at h'
  cases h with
  | resolved hd hunder =>
    cases h' with
    | resolved | untouched => exact ha
    | moved hfree hc => exact absurd (ha ▸ hunder) (hfree _ hd)
  | untouched hnone =>
    cases h' with
    | resolved | untouched => exact ha
    | moved hfree hc => exact absurd (ha ▸ hc.under) (hnone _ hc.mem)
  | @moved c rest hfree hc =>
    cases h' with
    | resolved hd hunder => exact absurd (ha ▸ hunder) (hfree _ hd)
    | untouched hnone => exact absurd (ha ▸ hc.under) (hnone _ hc.mem)
    | @moved c' rest' hfree' hc' =>
      rw [← ha] at hc'
      obtain rfl := hc.unique hr hc'
      rw [List.append_cancel_left ha]

theorem isResolved_iff : r.isResolved a = true ↔ ∃ c ∈ r.changes, c.2 <+: a := by
  simp only [isResolved, List.any_eq_true, List.isPrefixOf_iff_prefix]

/-- The package a package is moved to. -/
theorem resolvePackage_converts (hr : r.Lawful) (package : String) :
    r.Converts (Name.segments package) (Name.segments (r.resolvePackage package)) := by
  unfold resolvePackage
  dsimp only
  split
  · rename_i h
    rcases Bool.or_eq_true_iff.1 h with hempty | hresolved
    · rw [List.isEmpty_iff.1 hempty]
      refine .untouched fun c hc hprefix => ?_
      exact hr.source c hc (List.prefix_nil.1 hprefix)
    · obtain ⟨c, hc, hunder⟩ := isResolved_iff.1 hresolved
      exact .resolved hc hunder
  · rename_i h
    rw [Bool.or_eq_true, not_or, isResolved_iff] at h
    obtain ⟨-, hfree⟩ := h
    rcases r.best?_cases (Name.segments package) with ⟨hnone, hall⟩ | ⟨c, hsome, hc⟩
    · rw [hnone]
      exact .untouched hall
    · simp only [hsome]
      rw [hr.segments_moved hc.mem fun part hpart =>
        Name.dot_not_mem_segment (List.mem_of_mem_drop hpart)]
      exact .of_longest (fun d hd hunder => hfree ⟨d, hd, hunder⟩) hc

theorem resolvePackage_eq_of_converts (hr : r.Lawful) {package moved : String}
    (h : r.Converts (Name.segments package) (Name.segments moved)) :
    r.resolvePackage package = moved := by
  have hsegments := (r.resolvePackage_converts hr package).unique hr h
  rw [← Name.dotted_segments (r.resolvePackage package), hsegments, Name.dotted_segments]

theorem resolvePackage_resolvePackage (hr : r.Lawful) (package : String) :
    r.resolvePackage (r.resolvePackage package) = r.resolvePackage package := by
  have hsegments := (r.resolvePackage_converts hr package).settled hr
    (r.resolvePackage_converts hr (r.resolvePackage package))
  rw [← Name.dotted_segments (r.resolvePackage (r.resolvePackage package)), hsegments,
    Name.dotted_segments]

theorem Converts.eq_nil (hr : r.Lawful) (h : r.Converts a []) : a = [] := by
  generalize hb : [] = b at h
  cases h with
  | resolved | untouched => rfl
  | @moved c rest _ hc =>
    obtain ⟨part, parts, htarget, -⟩ := hr.target c hc.mem
    simp [htarget] at hb

theorem resolvePackage_ne_empty (hr : r.Lawful) {package : String} (h : package ≠ "") :
    r.resolvePackage package ≠ "" := by
  intro hempty
  have hconverts := r.resolvePackage_converts hr package
  rw [Name.segments_eq_nil_iff.2 hempty] at hconverts
  exact h (Name.segments_eq_nil_iff.1 (hconverts.eq_nil hr))

/-! ### Converted names -/

theorem resolveName_eq (r : Resolver) (name : String) : r.resolveName name =
    Name.qualify (r.resolvePackage (Name.package name)) (Name.simple name) := rfl

theorem package_resolveName (r : Resolver) (name : String) :
    Name.package (r.resolveName name) = r.resolvePackage (Name.package name) :=
  Name.package_qualify _ (Name.dot_not_mem_simple name)

theorem simple_resolveName (r : Resolver) (name : String) :
    Name.simple (r.resolveName name) = Name.simple name :=
  Name.simple_qualify _ (Name.dot_not_mem_simple name)

theorem resolveName_resolveName (hr : r.Lawful) (name : String) :
    r.resolveName (r.resolveName name) = r.resolveName name := by
  rw [resolveName_eq r (r.resolveName name), package_resolveName, simple_resolveName,
    resolvePackage_resolvePackage hr, resolveName_eq]

theorem resolve_ok {α : Type} [Named α] (r : Resolver) {a : α} {s : String}
    (h : Named.qualifiedName a = .text s) (hs : s ≠ "") :
    r.resolve a = .ok (r.resolveName s) := by
  have hq : qualifiedName a = .ok s := by
    unfold qualifiedName
    rw [h]
    split
    · rename_i he
      exact absurd (Value.text.inj he) hs
    · rename_i he
      rw [Value.text.inj he]
    · rename_i hne
      exact absurd rfl (hne s)
  rw [resolve, hq]
  rfl

/-- **Resolution settles a name.**  Under rules that were accepted, every name but the empty one and
the dot alone has an identifier, which is not empty and has the simple name; its package is the one
that the rules move the package to, and the identifier is its own identifier. -/
theorem resolve_settles {rules : List Rule} {name : String} (hr : ofRules rules = .ok r)
    (hne : name ≠ "") (hdot : name ≠ ".") :
    ∃ id, r.resolve name = .ok id ∧ id ≠ "" ∧ Name.simple id = Name.simple name ∧
      r.Converts (Name.segments (Name.package name)) (Name.segments (Name.package id)) ∧
      r.resolve id = .ok id := by
  have hlawful := lawful_of_ofRules hr
  have hid : r.resolveName name ≠ "" := by
    rw [resolveName_eq]
    exact Name.qualify_ne_empty hne hdot fun hp => resolvePackage_ne_empty hlawful hp
  refine ⟨r.resolveName name, r.resolve_ok rfl hne, hid, r.simple_resolveName name, ?_, ?_⟩
  · rw [package_resolveName]
    exact r.resolvePackage_converts hlawful (Name.package name)
  · rw [r.resolve_ok rfl hid, resolveName_resolveName hlawful]

/-- Rules with a source below another one, and a package that is moved to itself. -/
def nestedRules : List Rule :=
  [⟨"org.shop", "com.client"⟩, ⟨"org.shop.api", "com.api"⟩, ⟨"org.shop.core", "org.shop.core"⟩]

theorem resolve_settles_nested : ∃ r, ofRules nestedRules = .ok r ∧
    (∃ id, r.resolve "org.shop.api..Cart" = .ok id ∧ id ≠ "" ∧
      Name.simple id = Name.simple "org.shop.api..Cart" ∧
      r.Converts (Name.segments (Name.package "org.shop.api..Cart"))
        (Name.segments (Name.package id)) ∧
      r.resolve id = .ok id) ∧
    r.resolve "org.shop.api..Cart" = .ok "com.api..Cart" := by
  refine ⟨⟨conversionsOf nestedRules⟩, rfl, ?_, rfl⟩
  exact resolve_settles (show ofRules nestedRules = .ok _ from rfl) (by decide) (by decide)

end Resolver

end SoapStubs
