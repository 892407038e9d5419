import SoapStubs.Proofs.Closure

/-!
# What the manifest of a model lists

The common phase goes through the messages of operations, the faults and the types of a model, and
all three declare into one manifest.  What is listed in the end is known from the model: the
identifiers of the names that were met on the way, each at the place where it was met first.

* `ServiceModel.implicitFaults` are the identifiers of faults whose beans are generated, with the
  names of the beans, and `ServiceModel.listedNames` the names that are declared;
* `Manifest.identifiers_addAll`: a manifest lists what was declared, each at its first place;
* `Listing` says which identifiers a manifest lists for a model;
* `Generator.runCommon_listing` is the theorem.
-/

namespace SoapStubs

/-- Declarations into an empty manifest are listed each at its first place. -/
theorem Manifest.identifiers_addAll {ds : List Declaration} {m : Manifest}
    (h : Manifest.addAll {} ds = .ok m) : m.identifiers = (ds.map Prod.fst).eraseDups := by
  rw [identifiers, origins_addAll h, ← Ordered.ofList, Ordered.keys_ofList, List.map_map]
  rfl

namespace ServiceModel

/-- The faults of a model whose beans are generated: the identifier of each, and the name of its
bean. -/
def implicitFaults (r : Resolver) (m : ServiceModel) : List (String × String) :=
  (m.faults.filter Fault.isImplicit).map fun f =>
    (r.resolveName f.name, f.implicitBeanName.nameText)

/-- The names that a model declares: those of the beans of messages as they are met in endpoints
and operations, those of the beans of faults in the order that is given for these, and those of the
types that are not abstract. -/
def listedNames (m : ServiceModel) (carriers : List (String × String)) : List String :=
  m.beanMessages.map (·.beanName.nameText) ++ (carriers.map Prod.snd ++ m.concreteTypeNames)

end ServiceModel

/-- The identifiers are those that are listed for the model, where the faults with generated beans
come in this order. -/
structure Listing (r : Resolver) (m : ServiceModel) (carriers : List (String × String))
    (identifiers : List String) : Prop where
  /-- Faults come in the order of their identifiers, each once. -/
  ascending : carriers.Pairwise fun p q => p.1 < q.1
  /-- They are the faults of the model whose beans are generated. -/
  complete : ∀ p, p ∈ carriers ↔ p ∈ m.implicitFaults r
  /-- Every name has an identifier. -/
  resolved : ∀ n ∈ m.listedNames carriers, r.resolve n = .ok (r.resolveName n)
  /-- The identifiers of the names are listed, each at its first place. -/
  listed : identifiers = ((m.listedNames carriers).map r.resolveName).eraseDups
  /-- Names of one identifier are the same name. -/
  apart : Set.InjOn r.resolveName { n | n ∈ m.listedNames carriers }

section

variable {r : Resolver} {m : ServiceModel} {faults : List ResolvedFault}

/-- The entries of implicit faults, as identifiers with the names of their beans. -/
def carriersOf (faults : List ResolvedFault) : List (String × String) :=
  (faults.filter (·.isImplicit)).map fun f => (f.identifier, f.fault.implicitBeanName.nameText)

theorem ascending_carriersOf (hm : m.Typed) (h : resolveFaults r m.faults = .ok faults) :
    (carriersOf faults).Pairwise fun p q => p.1 < q.1 :=
  List.pairwise_map.2 ((resolution_of_ok r hm.faults h).2.ascending.filter _)

theorem mem_carriersOf (hm : m.Typed) (h : resolveFaults r m.faults = .ok faults)
    (p : String × String) : p ∈ carriersOf faults ↔ p ∈ m.implicitFaults r := by
  simp only [carriersOf, ServiceModel.implicitFaults, List.mem_map]
  constructor
  · rintro ⟨e, he, rfl⟩
    obtain ⟨hmem, himplicit⟩ := List.mem_filter.1 he
    obtain ⟨d, hd, rfl⟩ := exists_entry_of_resolved hm.faults h e hmem
    exact ⟨d, List.mem_filter.2 ⟨hd, himplicit⟩, rfl⟩
  · rintro ⟨f, hf, rfl⟩
    obtain ⟨hmem, himplicit⟩ := List.mem_filter.1 hf
    obtain ⟨e, he, hidentifier, hbean⟩ := exists_implicit_entry hm.faults h hmem himplicit
    exact ⟨e, he, by rw [hidentifier, hbean]⟩

/-- The names of declarations are the names that are listed. -/
theorem map_snd_declared (r : Resolver) (m : ServiceModel) (faults : List ResolvedFault) :
    (m.declared r faults).map Prod.snd = m.listedNames (carriersOf faults) := by
  simp [ServiceModel.declared, ServiceModel.listedNames, carriersOf,
    ServiceModel.concreteTypeNames, BeanMessage.declaration, ResolvedFault.declaration,
    TypeDefinition.declaration, Function.comp_def]

/-- **A manifest into which a model was declared lists the model.** -/
theorem listing_of_addAll {manifest : Manifest} (hm : m.Typed)
    (hfaults : resolveFaults r m.faults = .ok faults)
    (hadded : Manifest.addAll {} (m.declared r faults) = .ok manifest)
    (hresolves : ∀ d ∈ m.declared r faults, d.Resolves r) :
    Listing r m (carriersOf faults) manifest.identifiers := by
  have hmem : ∀ n ∈ m.listedNames (carriersOf faults), ∃ d ∈ m.declared r faults, d.2 = n := by
    intro n hn
    rw [← map_snd_declared r] at hn
    exact List.mem_map.1 hn
  constructor
  case ascending => exact ascending_carriersOf hm hfaults
  case complete => exact mem_carriersOf hm hfaults
  case resolved =>
    intro n hn
    obtain ⟨d, hd, rfl⟩ := hmem n hn
    exact r.resolve_ok rfl (hresolves d hd).2
  case listed =>
    rw [Manifest.identifiers_addAll hadded, ← map_snd_declared r, List.map_map]
    exact congrArg List.eraseDups (List.map_congr_left fun d hd => (hresolves d hd).1)
  case apart =>
    intro n hn n' hn' hid
    obtain ⟨d, hd, rfl⟩ := hmem n hn
    obtain ⟨d', hd', rfl⟩ := hmem n' hn'
    obtain ⟨hfst, hne⟩ := hresolves d hd
    obtain ⟨hfst', hne'⟩ := hresolves d' hd'
    exact Manifest.origin_eq hadded hd hd' (by rw [hfst, hfst', hid]) hne hne'

end

namespace Generator

variable {g : Generator} {s s' : Session} {c : CommonResult}

/-- **What the manifest lists.**  If the common phase of a typed model returns, then its manifest
lists the identifiers of the beans of messages as they are met, then those of the beans that are
generated for faults in the order of the faults' identifiers, then those of the types that are not
abstract, each at the place where it comes first; and what has one identifier has one name. -/
theorem runCommon_listing (hm : g.model.Typed) (h : g.runCommon.Returns s c s') :
    ∃ carriers, Listing g.resolver g.model carriers c.manifest.identifiers := by
  obtain ⟨plan, b, s₁, s₂, -, hplay, rfl, -⟩ := runCommon_play h
  obtain ⟨hfaults, hadded, hresolves⟩ := Site.play_declares hm hplay
  -- closing the manifest keeps its identifiers
  have hlisting : Listing g.resolver g.model (carriersOf plan.faults) b.manifest.identifiers :=
    listing_of_addAll hm hfaults hadded hresolves
  exact ⟨carriersOf plan.faults, hlisting⟩

/-- The bookings with a type of a message's name, an abstract type and another one. -/
def seatedBookings : Generator :=
  { bookingService with
    model := {
      bookingService.model with
      schemaGroups := [(.text "urn:fair", {
        types := [
          { qualifiedName := .text "fair.Seat", space := .text "urn:fair" },
          { qualifiedName := .text "fair.Place", space := .text "urn:fair", isAbstract := true },
          { qualifiedName := .text "fair.Book", space := .text "urn:fair" }] })] } }

theorem runCommon_listing_bookings :
    seatedBookings.model.Typed ∧ ∃ c s', seatedBookings.runCommon.Returns {} c s' ∧
      c.manifest.identifiers =
        ["client.fair.Book", "client.fair.SoldOutInfo", "client.fair.Seat"] ∧
      ∃ carriers, Listing seatedBookings.resolver seatedBookings.model carriers
        c.manifest.identifiers := by
  have hm : seatedBookings.model.Typed := by decide
  obtain ⟨c, s', h, hc⟩ := @Run.returns_of_check _ seatedBookings.runCommon {}
    (fun c => c.manifest.identifiers ==
      ["client.fair.Book", "client.fair.SoldOutInfo", "client.fair.Seat"]) (by decide +kernel)
  exact ⟨hm, c, s', h, eq_of_beq hc, runCommon_listing hm h⟩

end Generator

end SoapStubs
