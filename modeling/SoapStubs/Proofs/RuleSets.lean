import Mathlib.Data.List.MinMax
import SoapStubs.Conversion.Member
import SoapStubs.Proofs.FaultResolution

/-!
# What a list of rules means

A list of rules is read as a set: of the rules with one source the last is in force, and otherwise
their order does not matter.  Which lists are accepted and where packages are moved to is said here
in terms of the rules in force.

* `Rule.inForce` are the rules in force, and `Rule.Chained` says that the source of one lies at or
  under a package that another one moves something to;
* `Resolver.ofRules_eq_ok_iff`: rules are accepted if they are well formed and not chained;
* `Rule.convert` moves a package by the longest source it lies under, unless it lies under a target
  that is as long.  Conversion asks for any target that is not its own source, whatever its length;
  `Resolver.resolvePackage_eq_convert` says that this is the same for accepted rules;
* `Resolver.rules_live`: every rule in force moves its source, and what is below it as far as no
  other rule is concerned;
* `Resolver.resolve_reordered`: rules may be put into another order, if those of one source stay in
  theirs.
-/

namespace SoapStubs

/-! ### Packages that lie under others -/

namespace Name

variable {package upper rest : String}

/-- The number of segments of a package. -/
def depth (package : String) : Nat := (segments package).length

/-- The package is the upper one or lies below it; only whole segments count. -/
def Under (package upper : String) : Prop := segments upper <+: segments package

instance (package upper : String) : Decidable (Under package upper) :=
  inferInstanceAs (Decidable (_ <+: _))

theorem segments_injective : Function.Injective segments :=
  Function.LeftInverse.injective dotted_segments

theorem segments_append (h : package ≠ "") (rest : String) :
    segments (package ++ "." ++ rest) = segments package ++ Text.split '.' rest := by
  have hne : package ++ "." ++ rest ≠ "" := by simp [String.append_eq_empty_iff]
  rw [segments, if_neg hne, segments, if_neg h]
  exact Text.split_append_sep '.' package rest

end Name

/-! ### Rules in force -/

namespace Rule

variable {rules rules' : List Rule} {rule : Rule}

/-- The source and the target by their segments. -/
def conversion (rule : Rule) : List String × List String :=
  (Name.segments rule.source, Name.segments rule.target)

theorem check_cases (rule : Rule) : rule.check = .ok () ∨ IntegrityError rule.check := by
  unfold check
  split
  · exact .inr ⟨_, rfl, rfl⟩
  · split
    · exact .inr ⟨_, rfl, rfl⟩
    · exact .inl rfl

theorem conversion_injective : Function.Injective conversion := by
  intro rule rule' h
  obtain ⟨hsource, htarget⟩ := Prod.mk.inj h
  cases rule
  cases rule'
  exact congrArg₂ Rule.mk (Name.segments_injective hsource) (Name.segments_injective htarget)

theorem check_of_isDotted (h : isDotted rule.source = true ∧ isDotted rule.target = true) :
    rule.check = .ok () := by
  simp [check, h.1, h.2]

/-- The rules in force: the last one of each source. -/
def inForce (rules : List Rule) : List Rule :=
  rules.filter fun rule => (rules.filter (·.source == rule.source)).getLast? == some rule

theorem mem_inForce : rule ∈ inForce rules ↔
    (rules.filter (·.source == rule.source)).getLast? = some rule := by
  rw [inForce, List.mem_filter, beq_iff_eq, and_iff_right_iff_imp]
  intro h
  exact List.mem_of_mem_filter (List.mem_of_getLast? h)

/-- The source of a rule in force lies at or under the target of another one that changes
something. -/
def Chained (rules : List Rule) : Prop :=
  ∃ lower ∈ inForce rules, ∃ upper ∈ inForce rules,
    upper.source ≠ upper.target ∧ Name.Under lower.source upper.target

/-- The rule in force with the longest source that the package lies under. -/
def best? (rules : List Rule) (package : String) : Option Rule :=
  ((inForce rules).filter fun rule => Name.Under package rule.source).argmax
    fun rule => Name.depth rule.source

/-- The package after conversion: a target that the package lies under keeps it where it is, if it
is as long as the longest source. -/
def convert (rules : List Rule) (package : String) : String :=
  match best? rules package with
  | none => package
  | some best =>
    if ∃ rule ∈ inForce rules, Name.Under package rule.target ∧
        Name.depth best.source ≤ Name.depth rule.target then package
    else
      Name.dotted (Name.segments best.target ++
        (Name.segments package).drop (Name.depth best.source))

/-- The same rules in another order, in which rules of one source stay in theirs. -/
structure Reordered (rules rules' : List Rule) : Prop where
  /-- They are the same rules. -/
  perm : rules.Perm rules'
  /-- Those of one source are in the same order. -/
  order : ∀ source, rules.filter (·.source == source) = rules'.filter (·.source == source)

theorem Reordered.symm (h : Reordered rules rules') : Reordered rules' rules :=
  ⟨h.perm.symm, fun source => (h.order source).symm⟩

/-- Neighbours with different sources may change places. -/
theorem Reordered.swap (before after : List Rule) (rule rule' : Rule)
    (h : rule.source ≠ rule'.source) :
    Reordered (before ++ rule :: rule' :: after) (before ++ rule' :: rule :: after) := by
  refine ⟨(List.Perm.swap _ _ _).append_left _, fun source => ?_⟩
  by_cases hsource : rule.source = source
  · have hother : rule'.source ≠ source := fun hother => h (hsource.trans hother.symm)
    simp [hsource, hother]
  · simp [List.filter_cons, hsource]

theorem Reordered.mem_inForce (h : Reordered rules rules') :
    rule ∈ inForce rules ↔ rule ∈ inForce rules' := by
  rw [Rule.mem_inForce, Rule.mem_inForce, h.order]

theorem Reordered.chained (h : Reordered rules rules') : Chained rules ↔ Chained rules' := by
  simp only [Chained, h.mem_inForce]

/-- The first rule is not in force, the second keeps a package where it is, and the last moves a
package below itself. -/
def shadowed : List Rule := [⟨"org", "com"⟩, ⟨"org.core", "org.core"⟩, ⟨"org", "org.shop"⟩]

end Rule

namespace Resolver

variable {rules rules' : List Rule} {r r' : Resolver} {rule : Rule} {a b b' : List String}
  {c : List String × List String} {package : String}

/-- The conversions of a list of rules are those of the rules in force. -/
theorem mem_conversionsOf :
    c ∈ conversionsOf rules ↔ ∃ rule ∈ Rule.inForce rules, c = rule.conversion := by
  have hkeys : (conversionsOf rules).keys.Nodup :=
    Ordered.nodup_keys_putAll (m := []) List.nodup_nil _
  have hget : ∀ k, (conversionsOf rules).get? k =
      ((rules.map Rule.conversion).filter (·.1 == k)).getLast?.map Prod.snd :=
    Ordered.get?_ofList (rules.map Rule.conversion)
  -- the last pair of a source comes from the last rule of the source
  have hlast : ∀ source, ((rules.map Rule.conversion).filter
      (·.1 == Name.segments source)).getLast? =
        (rules.filter (·.source == source)).getLast?.map Rule.conversion := by
    intro source
    rw [List.filter_map, List.getLast?_map]
    congr 2
    refine List.filter_congr fun rule _ => ?_
    rw [Bool.eq_iff_iff]
    simp [Rule.conversion, Name.segments_injective.eq_iff]
  rw [Ordered.mem_iff_get? hkeys, hget]
  constructor
  · intro h
    obtain ⟨p, hp, htarget⟩ := Option.map_eq_some_iff.1 h
    obtain ⟨hmem, hsource⟩ := List.mem_filter.1 (List.mem_of_getLast? hp)
    obtain ⟨rule, -, rfl⟩ := List.mem_map.1 hmem
    rw [← eq_of_beq hsource, Rule.conversion, hlast] at hp
    obtain ⟨rule', hrule', heq⟩ := Option.map_eq_some_iff.1 hp
    rw [Rule.conversion_injective heq] at hrule'
    exact ⟨rule, Rule.mem_inForce.2 hrule', Prod.ext (eq_of_beq hsource).symm htarget.symm⟩
  · rintro ⟨rule, hrule, rfl⟩
    rw [Rule.conversion, hlast, Rule.mem_inForce.1 hrule]
    rfl

/-! ### Accepted rules -/

theorem mem_changes : c ∈ r.changes ↔ c ∈ r.conversions ∧ c.1 ≠ c.2 := by
  rw [changes, List.mem_filter, bne_iff_ne]

theorem chain?_eq_none_iff :
    r.chain? = none ↔ ∀ c ∈ r.conversions, ∀ d ∈ r.changes, ¬d.2 <+: c.1 := by
  simp only [chain?, Ordered.keys, List.findSome?_eq_none_iff, List.forall_mem_map,
    Option.map_eq_none_iff, List.find?_eq_none, List.isPrefixOf_iff_prefix]

/-- No source of the conversions lies under a target if and only if the rules are not chained. -/
theorem chain?_conversionsOf : chain? ⟨conversionsOf rules⟩ = none ↔ ¬Rule.Chained rules := by
  rw [chain?_eq_none_iff]
  constructor
  · rintro h ⟨lower, hlower, upper, hupper, hne, hunder⟩
    refine h lower.conversion (mem_conversionsOf.2 ⟨lower, hlower, rfl⟩) upper.conversion ?_ hunder
    exact mem_changes.2 ⟨mem_conversionsOf.2 ⟨upper, hupper, rfl⟩,
      Name.segments_injective.ne hne⟩
  · intro h c hc d hd hunder
    obtain ⟨hmem, hne⟩ := mem_changes.1 hd
    obtain ⟨lower, hlower, rfl⟩ := mem_conversionsOf.1 hc
    obtain ⟨upper, hupper, rfl⟩ := mem_conversionsOf.1 hmem
    exact h ⟨lower, hlower, upper, hupper, fun heq => hne (congrArg Name.segments heq), hunder⟩

theorem forM_check_cases (rules : List Rule) :
    rules.forM Rule.check = .ok () ∨ IntegrityError (rules.forM Rule.check) := by
  induction rules with
  | nil => exact .inl rfl
  | cons rule rules ih =>
    rw [List.forM]
    rcases rule.check_cases with hok | herror
    · rw [hok]
      exact ih
    · exact .inr (herror.bind _)

theorem forM_check_eq_ok_iff :
    rules.forM Rule.check = .ok () ↔ ∀ rule ∈ rules, rule.check = .ok () := by
  refine ⟨check_of_forM, fun h => ?_⟩
  induction rules with
  | nil => rfl
  | cons rule rules ih =>
    rw [List.forall_mem_cons] at h
    rw [List.forM, h.1]
    exact ih h.2

/-- **Which lists of rules are accepted**: well formed ones that are not chained. -/
theorem ofRules_eq_ok_iff : ofRules rules = .ok r ↔
    (∀ rule ∈ rules, rule.check = .ok ()) ∧ ¬Rule.Chained rules ∧ ⟨conversionsOf rules⟩ = r := by
  rw [← forM_check_eq_ok_iff, ← chain?_conversionsOf, ofRules]
  rcases forM_check_cases rules with hok | ⟨e, herror, -⟩
  · rw [hok]
    cases hchain : chain? ⟨conversionsOf rules⟩ <;> simp [hchain]
  · rw [herror]
    simp

/-- All other lists are refused with an integrity error. -/
theorem ofRules_cases (rules : List Rule) :
    (∃ r, ofRules rules = .ok r) ∨ IntegrityError (ofRules rules) := by
  rw [ofRules]
  rcases forM_check_cases rules with hok | herror
  · rw [hok]
    cases hchain : chain? ⟨conversionsOf rules⟩ with
    | none => exact .inl ⟨⟨conversionsOf rules⟩, by simp [hchain]⟩
    | some p => exact .inr ⟨_, by simp [hchain]; rfl, rfl⟩
  · exact .inr (herror.bind _)

/-! ### The longest source and the targets -/

/-- What is known of the conversions of accepted rules. -/
structure Accepted (rules : List Rule) (r : Resolver) : Prop where
  /-- The rules are well formed. -/
  lawful : r.Lawful
  /-- The conversions are those of the rules in force. -/
  conversions : ∀ {c}, c ∈ r.conversions ↔ ∃ rule ∈ Rule.inForce rules, c = rule.conversion
  /-- No source lies under a target. -/
  unchained : ∀ c ∈ r.conversions, ∀ d ∈ r.changes, ¬d.2 <+: c.1

theorem accepted_of_ofRules (h : ofRules rules = .ok r) : Accepted rules r := by
  have hlawful := lawful_of_ofRules h
  obtain ⟨-, hchained, rfl⟩ := ofRules_eq_ok_iff.1 h
  exact ⟨hlawful, mem_conversionsOf, chain?_eq_none_iff.1 (chain?_conversionsOf.2 hchained)⟩

namespace Accepted

variable (h : Accepted rules r)

include h

theorem mem_conversions (hrule : rule ∈ Rule.inForce rules) : rule.conversion ∈ r.conversions :=
  h.conversions.2 ⟨rule, hrule, rfl⟩

theorem mem_changes (hrule : rule ∈ Rule.inForce rules) (hne : rule.source ≠ rule.target) :
    rule.conversion ∈ r.changes :=
  Resolver.mem_changes.2 ⟨h.mem_conversions hrule, Name.segments_injective.ne hne⟩

/-- The best rule is the one with the longest source. -/
theorem best?_cases (package : String) :
    (Rule.best? rules package = none ∧ ∀ c ∈ r.conversions, ¬c.1 <+: Name.segments package) ∨
      ∃ rule, Rule.best? rules package = some rule ∧
        r.Longest (Name.segments package) rule.conversion := by
  cases hbest : Rule.best? rules package with
  | none =>
    refine .inl ⟨rfl, fun c hc hunder => ?_⟩
    obtain ⟨rule, hrule, rfl⟩ := h.conversions.1 hc
    exact List.filter_eq_nil_iff.1 (List.argmax_eq_none.1 hbest) rule hrule
      (decide_eq_true hunder)
  | some rule =>
    obtain ⟨hrule, hunder⟩ := List.mem_filter.1 (List.argmax_mem hbest)
    refine .inr ⟨rule, rfl, h.mem_conversions hrule, of_decide_eq_true hunder, fun d hd hd' => ?_⟩
    obtain ⟨other, hother, rfl⟩ := h.conversions.1 hd
    have hmatches : other ∈ (Rule.inForce rules).filter fun rule =>
        Name.Under package rule.source := List.mem_filter.2 ⟨hother, decide_eq_true hd'⟩
    exact List.le_of_mem_argmax (f := fun rule : Rule => Name.depth rule.source) hmatches hbest

/-- A target is longer than a source: if a package lies under both, then otherwise the source would
lie under the target. -/
theorem longer_of_under (hc : c ∈ r.conversions) (hunder : c.1 <+: a)
    {d : List String × List String} (hd : d ∈ r.changes) (hunder' : d.2 <+: a) :
    c.1.length < d.2.length := by
  refine Nat.lt_of_not_le fun hle => ?_
  exact h.unchained c hc d hd (List.prefix_of_prefix_length_le hunder' hunder hle)

/-- A package stays under a target that is as long as the longest source.  If the rule of this
target changes nothing, then its source is the longest one. -/
theorem converts_self (hc : r.Longest (Name.segments package) c) (hrule : rule ∈ Rule.inForce rules)
    (hunder : Name.Under package rule.target) (hle : c.1.length ≤ Name.depth rule.target) :
    r.Converts (Name.segments package) (Name.segments package) := by
  by_cases hresolved : ∃ d ∈ r.changes, d.2 <+: Name.segments package
  · obtain ⟨d, hd, hunder⟩ := hresolved
    exact .resolved hd hunder
  · push Not at hresolved
    have hsame : rule.source = rule.target := not_not.1 fun hne =>
      hresolved _ (h.mem_changes hrule hne) hunder
    have hlongest : r.Longest (Name.segments package) rule.conversion := by
      refine ⟨h.mem_conversions hrule, ?_, fun d hd hd' => ?_⟩
      · rw [Rule.conversion, hsame]
        exact hunder
      · rw [Rule.conversion, hsame]
        exact (hc.longest d hd hd').trans hle
    have hconverts := Converts.of_longest hresolved hlongest
    rw [Rule.conversion, hsame] at hconverts
    rwa [← List.prefix_append_drop hunder] at hconverts

/-- The package is moved to where the rules in force say. -/
theorem converts_convert (package : String) :
    r.Converts (Name.segments package) (Name.segments (Rule.convert rules package)) := by
  unfold Rule.convert
  rcases h.best?_cases package with ⟨hnone, hall⟩ | ⟨best, hbest, hlongest⟩
  · rw [hnone]
    exact .untouched hall
  rw [hbest]
  dsimp only
  split
  · rename_i htarget
    obtain ⟨rule, hrule, hunder, hle⟩ := htarget
    exact h.converts_self hlongest hrule hunder hle
  · rename_i htarget
    have hfree : ∀ d ∈ r.changes, ¬d.2 <+: Name.segments package := by
      intro d hd hunder
      have hlt := h.longer_of_under hlongest.mem hlongest.under hd hunder
      obtain ⟨rule, hrule, rfl⟩ := h.conversions.1 (Resolver.mem_changes.1 hd).1
      exact htarget ⟨rule, hrule, hunder, hlt.le⟩
    have hdotless : ∀ part ∈ (Name.segments package).drop best.conversion.1.length,
        '.' ∉ part.toList := fun part hpart => Name.dot_not_mem_segment (List.mem_of_mem_drop hpart)
    have hconverts := Converts.of_longest hfree hlongest
    rw [← h.lawful.segments_moved hlongest.mem hdotless] at hconverts
    exact hconverts

/-- The source of a rule in force is moved to its target. -/
theorem converts_source (hrule : rule ∈ Rule.inForce rules) :
    r.Converts (Name.segments rule.source) (Name.segments rule.target) := by
  have hmem := h.mem_conversions hrule
  have hlongest : r.Longest (Name.segments rule.source) rule.conversion :=
    ⟨hmem, List.prefix_refl _, fun d _ hd => hd.length_le⟩
  have hconverts := Converts.of_longest (h.unchained _ hmem) hlongest
  simpa [Rule.conversion] using hconverts

/-- What is below the source of a rule in force is moved with it, if there is no longer source and
no target in its way. -/
theorem converts_below (hrule : rule ∈ Rule.inForce rules) {rest : String}
    (hlongest : ∀ other ∈ Rule.inForce rules,
      Name.Under (rule.source ++ "." ++ rest) other.source →
        Name.depth other.source ≤ Name.depth rule.source)
    (hfree : ∀ other ∈ Rule.inForce rules, other.source ≠ other.target →
      ¬Name.Under (rule.source ++ "." ++ rest) other.target) :
    r.Converts (Name.segments (rule.source ++ "." ++ rest))
      (Name.segments (rule.target ++ "." ++ rest)) := by
  have hmem := h.mem_conversions hrule
  have hsource : rule.source ≠ "" := fun hempty =>
    h.lawful.source _ hmem (Name.segments_eq_nil_iff.2 hempty)
  have htarget : rule.target ≠ "" := by
    intro hempty
    obtain ⟨part, parts, heq, -⟩ := h.lawful.target _ hmem
    rw [Rule.conversion, Name.segments_eq_nil_iff.2 hempty] at heq
    cases heq
  have hsegments := Name.segments_append hsource rest
  have hunder : r.Longest (Name.segments (rule.source ++ "." ++ rest)) rule.conversion := by
    refine ⟨hmem, ?_, fun d hd hd' => ?_⟩
    · rw [hsegments]
      exact List.prefix_append _ _
    · obtain ⟨other, hother, rfl⟩ := h.conversions.1 hd
      exact hlongest other hother hd'
  have htargets : ∀ d ∈ r.changes, ¬d.2 <+: Name.segments (rule.source ++ "." ++ rest) := by
    intro d hd
    obtain ⟨hd, hne⟩ := Resolver.mem_changes.1 hd
    obtain ⟨other, hother, rfl⟩ := h.conversions.1 hd
    exact hfree other hother fun hsame => hne (congrArg Name.segments hsame)
  have hconverts := Converts.of_longest htargets hunder
  have hrest : (Name.segments (rule.source ++ "." ++ rest)).drop rule.conversion.1.length =
      Text.split '.' rest := by
    rw [hsegments]
    exact List.drop_left
  rw [hrest] at hconverts
  rw [Name.segments_append htarget rest]
  exact hconverts

end Accepted

/-- **Conversion by the longest source.**  Under accepted rules, a package is moved as the rules in
force say: asking for any target of a rule that changes something comes to the same as asking for a
target that is as long as the longest source. -/
theorem resolvePackage_eq_convert (h : ofRules rules = .ok r) (package : String) :
    r.resolvePackage package = Rule.convert rules package := by
  have haccepted := accepted_of_ofRules h
  exact resolvePackage_eq_of_converts haccepted.lawful (haccepted.converts_convert package)

theorem resolvePackage_eq_convert_shadowed : ∃ r, ofRules Rule.shadowed = .ok r ∧
    r.resolvePackage "org.api.v1" = Rule.convert Rule.shadowed "org.api.v1" ∧
    Rule.convert Rule.shadowed "org.api.v1" = "org.shop.api.v1" :=
  ⟨⟨conversionsOf Rule.shadowed⟩, rfl,
    resolvePackage_eq_convert (show ofRules Rule.shadowed = .ok _ from rfl) _, by decide⟩

/-- **No accepted rule is dead.**  Every rule in force moves its source to its target, and with it
what is below as long as there is no longer source and no target in the way.  Well formed rules are
refused only if the source of one in force lies at or under the target of another one that changes
something. -/
theorem rules_live (rules : List Rule) :
    (∀ r, ofRules rules = .ok r → ∀ rule ∈ Rule.inForce rules,
      r.resolvePackage rule.source = rule.target ∧
      ∀ rest, (∀ other ∈ Rule.inForce rules,
          Name.Under (rule.source ++ "." ++ rest) other.source →
            Name.depth other.source ≤ Name.depth rule.source) →
        (∀ other ∈ Rule.inForce rules, other.source ≠ other.target →
          ¬Name.Under (rule.source ++ "." ++ rest) other.target) →
        r.resolvePackage (rule.source ++ "." ++ rest) = rule.target ++ "." ++ rest) ∧
    ((∀ rule ∈ rules, Rule.isDotted rule.source = true ∧ Rule.isDotted rule.target = true) →
      ((∃ f, ofRules rules = .error f) ↔ Rule.Chained rules)) := by
  refine ⟨fun r h rule hrule => ?_, fun hformed => ?_⟩
  · have haccepted := accepted_of_ofRules h
    refine ⟨?_, fun rest hlongest hfree => ?_⟩
    · exact resolvePackage_eq_of_converts haccepted.lawful (haccepted.converts_source hrule)
    · exact resolvePackage_eq_of_converts haccepted.lawful
        (haccepted.converts_below hrule hlongest hfree)
  · have hchecks : ∀ rule ∈ rules, rule.check = .ok () := fun rule hrule =>
      Rule.check_of_isDotted (hformed rule hrule)
    constructor
    · rintro ⟨f, hf⟩
      by_contra hchained
      rw [ofRules_eq_ok_iff.2 ⟨hchecks, hchained, rfl⟩] at hf
      cases hf
    · intro hchained
      rcases ofRules_cases rules with ⟨r, hr⟩ | ⟨e, he, -⟩
      · exact absurd hchained (ofRules_eq_ok_iff.1 hr).2.1
      · exact ⟨_, he⟩

theorem rules_live_shadowed :
    (∃ r, ofRules Rule.shadowed = .ok r ∧ r.resolvePackage "org" = "org.shop" ∧
      r.resolvePackage "org.api.v1" = "org.shop.api.v1") ∧
    ∃ f, ofRules [⟨"org", "com"⟩, ⟨"com.shop", "net"⟩] = .error f := by
  have hlive := (rules_live Rule.shadowed).1 ⟨conversionsOf Rule.shadowed⟩ rfl
    ⟨"org", "org.shop"⟩ (by decide)
  refine ⟨⟨_, rfl, hlive.1, hlive.2 "api.v1" (by decide) (by decide)⟩, ?_⟩
  refine ((rules_live [⟨"org", "com"⟩, ⟨"com.shop", "net"⟩]).2 (by decide)).2 ?_
  exact ⟨⟨"com.shop", "net"⟩, by decide, ⟨"org", "com"⟩, by decide, by decide, by decide⟩

/-! ### Rules in another order -/

/-- Conversion asks which conversions there are, not for their order. -/
theorem Converts.congr (hr : ∀ c, c ∈ r.conversions ↔ c ∈ r'.conversions)
    (h : r.Converts a b) : r'.Converts a b := by
  have hchanges : ∀ c, c ∈ r.changes ↔ c ∈ r'.changes := fun c => by
    rw [mem_changes, mem_changes, hr]
  cases h with
  | resolved hc hunder => exact .resolved ((hchanges _).1 hc) hunder
  | untouched hnone => exact .untouched fun c hc => hnone c ((hr c).2 hc)
  | moved hfree hc =>
    refine .moved (fun d hd => hfree d ((hchanges d).2 hd)) ⟨(hr _).1 hc.mem, hc.under, ?_⟩
    exact fun d hd => hc.longest d ((hr d).2 hd)

theorem resolvePackage_congr (hlawful : r.Lawful) (hlawful' : r'.Lawful)
    (hr : ∀ c, c ∈ r.conversions ↔ c ∈ r'.conversions) (package : String) :
    r.resolvePackage package = r'.resolvePackage package := by
  have hconverts := r'.resolvePackage_converts hlawful' package
  exact resolvePackage_eq_of_converts hlawful (hconverts.congr fun c => (hr c).symm)

/-- Two resolvers that convert packages alike agree on all that is resolved. -/
structure Alike (r r' : Resolver) : Prop where
  /-- They agree on what has a name. -/
  resolve : ∀ (α : Type) [Named α] (entity : α), r.resolve entity = r'.resolve entity
  /-- They agree on the types of members. -/
  resolveType : ∀ ref variant, r.resolveType ref variant = r'.resolveType ref variant
  /-- They agree on the types of elements. -/
  resolveElement : ∀ ref variant, r.resolveElement ref variant = r'.resolveElement ref variant
  /-- They agree on the types of members in a variant that is yet to be read. -/
  resolveTypeIn : ∀ ref variant, r.resolveTypeIn ref variant = r'.resolveTypeIn ref variant
  /-- They agree on the types of elements in a variant that is yet to be read. -/
  resolveElementIn : ∀ ref variant,
    r.resolveElementIn ref variant = r'.resolveElementIn ref variant

theorem alike_of_resolvePackage
    (h : ∀ package, r.resolvePackage package = r'.resolvePackage package) : Alike r r' := by
  have hname : r.resolveName = r'.resolveName := by
    funext name
    rw [resolveName_eq, resolveName_eq, h]
  have hresolve : ∀ (α : Type) [Named α] (entity : α), r.resolve entity = r'.resolve entity := by
    intro α _ entity
    rw [resolve, resolve, hname]
  have helement : ∀ ref variant, r.resolveElement ref variant = r'.resolveElement ref variant := by
    intro ref variant
    rw [resolveElement, resolveElement, hresolve]
  have htype : ∀ ref variant, r.resolveType ref variant = r'.resolveType ref variant := by
    intro ref variant
    cases ref with
    | none => rfl
    | some ref => simp only [resolveType, hresolve, helement]
  refine ⟨hresolve, htype, helement, fun ref variant => ?_, fun ref variant => ?_⟩
  · simp only [resolveTypeIn, htype]
  · simp only [resolveElementIn, hresolve]

/-- Rules in another order are accepted too. -/
theorem ofRules_reordered (h : Rule.Reordered rules rules') (hr : ofRules rules = .ok r) :
    ∃ r', ofRules rules' = .ok r' ∧ Alike r r' := by
  have hlawful := lawful_of_ofRules hr
  obtain ⟨hchecks, hchained, rfl⟩ := ofRules_eq_ok_iff.1 hr
  have hr' : ofRules rules' = .ok ⟨conversionsOf rules'⟩ := by
    refine ofRules_eq_ok_iff.2 ⟨fun rule hrule => ?_, fun hchained' => ?_, rfl⟩
    · exact hchecks rule (h.perm.mem_iff.2 hrule)
    · exact hchained (h.chained.2 hchained')
  have hconversions : ∀ c, c ∈ conversionsOf rules ↔ c ∈ conversionsOf rules' := by
    intro c
    simp only [mem_conversionsOf, h.mem_inForce]
  have hpackages := resolvePackage_congr hlawful (lawful_of_ofRules hr') hconversions
  exact ⟨_, hr', alike_of_resolvePackage hpackages⟩

/-- **The order of rules with different sources does not matter.**  Both lists are refused with an
integrity error, or both are accepted and what is resolved by them is the same. -/
theorem resolve_reordered (h : Rule.Reordered rules rules') :
    (IntegrityError (ofRules rules) ∧ IntegrityError (ofRules rules')) ∨
      ∃ r r', ofRules rules = .ok r ∧ ofRules rules' = .ok r' ∧ Alike r r' := by
  rcases ofRules_cases rules with ⟨r, hr⟩ | herror
  · obtain ⟨r', hr', halike⟩ := ofRules_reordered h hr
    exact .inr ⟨r, r', hr, hr', halike⟩
  rcases ofRules_cases rules' with ⟨r', hr'⟩ | herror'
  · obtain ⟨r, hr, -⟩ := ofRules_reordered h.symm hr'
    exact absurd hr (herror.ne_ok r)
  · exact .inl ⟨herror, herror'⟩

theorem resolve_reordered_shadowed :
    ∃ rules r r', Rule.Reordered Rule.shadowed rules ∧ rules ≠ Rule.shadowed ∧
      ofRules Rule.shadowed = .ok r ∧ ofRules rules = .ok r' ∧ Alike r r' := by
  have h : Rule.Reordered Rule.shadowed
      [⟨"org", "com"⟩, ⟨"org", "org.shop"⟩, ⟨"org.core", "org.core"⟩] :=
    .swap [_] [] ⟨"org.core", "org.core"⟩ ⟨"org", "org.shop"⟩ (by decide)
  rcases resolve_reordered h with ⟨⟨e, he, -⟩, -⟩ | ⟨r, r', hr, hr', halike⟩
  · cases he
  · exact ⟨_, r, r', h, by decide, hr, hr', halike⟩

end Resolver

end SoapStubs
