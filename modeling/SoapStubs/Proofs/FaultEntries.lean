import SoapStubs.Proofs.FaultOrder

/-!
# When faults are resolved, and to what

Typed declarations of faults are resolved exactly if they are coherent: each has a name, those of
one name have the same carrier, the carriers have names, and different names have different
identifiers.  The entries are then known but for one thing: of several declarations with the same
least key, any may have been taken.

* `Fault.carrierName` is the name of a fault's carrier;
* `Coherent` is the condition, said without the carriers that resolution compares, and
  `coherent_iff` that it is what resolution needs;
* `Entries` says which entries there are;
* `resolveFaults_ok_iff` is the theorem.
-/

namespace SoapStubs

namespace Fault

/-- The name of what carries the fault: the bean that is generated for it, or the class of the
declared element.  A missing name counts as the empty one. -/
def carrierName (f : Fault) : String :=
  match f.explicitBean with
  | none => f.implicitBeanName.nameText
  | some bean => bean.qualifiedName.nameText

variable {f g : Fault}

theorem nameText_bean (h : f.Typed) : f.carrier.bean.nameText = f.carrierName := by
  cases he : f.explicitBean with
  | none => rw [bean_of_implicit h he, carrierName, he]
  | some bean => rw [bean_of_explicit h he, carrierName, he]

theorem manner_carrier (f : Fault) :
    f.carrier.manner = if f.isImplicit then "implicit" else "explicit" := by
  cases he : f.explicitBean <;> simp [carrier, isImplicit, Carrier.manner, he]

/-- Carriers are the same if both are generated or both are declared, under one name. -/
theorem carrier_eq_iff_carrierName (hf : f.Typed) (hg : g.Typed) :
    f.carrier = g.carrier ↔ f.isImplicit = g.isImplicit ∧ f.carrierName = g.carrierName := by
  rw [carrier_eq_iff hf hg, nameText_bean hf, nameText_bean hg, manner_carrier, manner_carrier]
  refine and_congr_left fun _ => ?_
  cases f.isImplicit <;> cases g.isImplicit <;> decide

end Fault

/-! ### Coherent declarations -/

/-- The declarations are named, agree on carriers with names, and have identifiers of their own. -/
structure Coherent (r : Resolver) (fs : List Fault) : Prop where
  /-- Each has a name that is not empty. -/
  named : ∀ f ∈ fs, ∃ n, n ≠ "" ∧ f.qualifiedName = .text n
  /-- Those of one name all have a generated carrier or all have a declared one, of one name. -/
  agreed : ∀ f ∈ fs, ∀ g ∈ fs, f.qualifiedName = g.qualifiedName →
    f.isImplicit = g.isImplicit ∧ f.carrierName = g.carrierName
  /-- The names of carriers are not empty. -/
  carried : ∀ f ∈ fs, f.carrierName ≠ ""
  /-- Different names have different identifiers. -/
  apart : ∀ f ∈ fs, ∀ g ∈ fs, f.qualifiedName ≠ g.qualifiedName → r.resolve f ≠ r.resolve g

section

variable {r : Resolver} {fs : List Fault} {rs : List ResolvedFault} {f g : Fault}

theorem Fault.Typed.name_ne_empty_iff (h : f.Typed) :
    f.name ≠ "" ↔ ∃ n, n ≠ "" ∧ f.qualifiedName = .text n := by
  constructor
  · exact fun hn => ⟨f.name, hn, h.qualifiedName.eq_text hn⟩
  · rintro ⟨n, hn, hq⟩
    rw [name, hq]
    exact hn

theorem Fault.Typed.resolve_eq (h : f.Typed) (hn : f.name ≠ "") :
    r.resolve f = .ok (r.resolveName f.name) :=
  r.resolve_ok (h.qualifiedName.eq_text hn) hn

/-- **Coherent declarations are those that can be resolved.** -/
theorem coherent_iff (ht : ∀ f ∈ fs, f.Typed) : Coherent r fs ↔ Resolvable r fs := by
  have hname : (∀ f ∈ fs, f.name ≠ "") → ∀ f ∈ fs, ∀ g ∈ fs,
      (f.qualifiedName = g.qualifiedName ↔ f.name = g.name) := by
    intro hn f hf g hg
    rw [(ht f hf).qualifiedName.eq_text (hn f hf), (ht g hg).qualifiedName.eq_text (hn g hg)]
    exact ⟨fun h => Value.text.inj h, fun h => congrArg Value.text h⟩
  have hresolve : (∀ f ∈ fs, f.name ≠ "") → ∀ f ∈ fs, ∀ g ∈ fs,
      (r.resolve f = r.resolve g ↔ r.resolveName f.name = r.resolveName g.name) := by
    intro hn f hf g hg
    rw [(ht f hf).resolve_eq (hn f hf), (ht g hg).resolve_eq (hn g hg), Except.ok.injEq]
  constructor
  · intro h
    have hn : ∀ f ∈ fs, f.name ≠ "" := fun f hf => (ht f hf).name_ne_empty_iff.2 (h.named f hf)
    refine ⟨hn, fun f hf g hg he => ?_, fun f hf => ?_, fun f hf g hg hne => ?_⟩
    · exact (Fault.carrier_eq_iff_carrierName (ht f hf) (ht g hg)).2
        (h.agreed f hf g hg ((hname hn f hf g hg).2 he))
    · rw [Fault.nameText_bean (ht f hf)]
      exact h.carried f hf
    · exact mt (hresolve hn f hf g hg).2
        (h.apart f hf g hg (mt (hname hn f hf g hg).1 hne))
  · intro h
    have hn := h.named
    refine ⟨fun f hf => (ht f hf).name_ne_empty_iff.1 (hn f hf), fun f hf g hg he => ?_,
      fun f hf => ?_, fun f hf g hg hne => ?_⟩
    · exact (Fault.carrier_eq_iff_carrierName (ht f hf) (ht g hg)).1
        (h.agreed f hf g hg ((hname hn f hf g hg).1 he))
    · rw [← Fault.nameText_bean (ht f hf)]
      exact h.carried f hf
    · exact mt (hresolve hn f hf g hg).1
        (h.apart f hf g hg (mt (hname hn f hf g hg).2 hne))

/-! ### Entries -/

/-- One entry for each name, in the order of identifiers, of a least declaration of the name. -/
structure Entries (r : Resolver) (fs : List Fault) (rs : List ResolvedFault) : Prop where
  ascending : rs.Pairwise fun a b => a.identifier < b.identifier
  /-- No name has two entries. -/
  once : (rs.map fun e => e.fault.name).Nodup
  /-- The names that have one are those of the declarations. -/
  names : ∀ n, n ∈ rs.map (fun e => e.fault.name) ↔ n ∈ fs.map Fault.name
  identifier : ∀ e ∈ rs, r.resolve e.fault.name = .ok e.identifier
  /-- It has the identifier of its carrier's name. -/
  carrier : ∀ e ∈ rs, r.resolve e.fault.carrierName = .ok e.carrier ∧
    e.isImplicit = e.fault.isImplicit
  /-- It stands for a declaration of its name that none has a lesser sort key than. -/
  least : ∀ e ∈ rs, LeastDeclared fs e.fault

theorem Resolution.entries (h : Resolution r fs rs) (hr : Resolvable r fs)
    (ht : ∀ f ∈ fs, f.Typed) : Entries r fs rs := by
  constructor
  case ascending => exact h.ascending
  case once =>
    -- entries of one name have one identifier, and identifiers ascend
    refine List.pairwise_map.2 (h.ascending.imp_of_mem fun {a b} ha hb hlt hname => ?_)
    obtain ⟨m, -, rfl⟩ := h.chosen a ha
    obtain ⟨n, -, rfl⟩ := h.chosen b hb
    rw [Fault.identifier_entry, Fault.identifier_entry] at hlt
    exact absurd (congrArg r.resolveName hname) (ne_of_lt hlt)
  case names =>
    intro n
    simp only [List.mem_map]
    constructor
    · rintro ⟨e, he, rfl⟩
      obtain ⟨m, hm, rfl⟩ := h.chosen e he
      exact ⟨m, hm.mem, rfl⟩
    · rintro ⟨f, hf, rfl⟩
      exact h.complete f hf
  case identifier =>
    intro e he
    obtain ⟨m, hm, rfl⟩ := h.chosen e he
    exact r.resolve_ok rfl (hr.named m hm.mem)
  case carrier =>
    intro e he
    obtain ⟨m, hm, rfl⟩ := h.chosen e he
    have hcarried := hr.carried m hm.mem
    refine ⟨?_, rfl⟩
    rw [Fault.nameText_bean (ht m hm.mem)] at hcarried
    rw [Fault.entry, Fault.nameText_bean (ht m hm.mem)]
    exact r.resolve_ok rfl hcarried
  case least =>
    intro e he
    obtain ⟨m, hm, rfl⟩ := h.chosen e he
    exact hm.leastDeclared ht

end

/-- **When faults are resolved, and to what.**  Typed declarations are resolved exactly if they are
coherent, all others are an integrity error, and what they are resolved to are their entries. -/
theorem resolveFaults_ok_iff (r : Resolver) {fs : List Fault} (ht : ∀ f ∈ fs, f.Typed) :
    ((∃ rs, resolveFaults r fs = .ok rs) ↔ Coherent r fs) ∧
      (¬Coherent r fs → IntegrityError (resolveFaults r fs)) ∧
      ∀ rs, resolveFaults r fs = .ok rs → Entries r fs rs := by
  rw [coherent_iff ht]
  rcases resolveFaults_cases r ht with ⟨hr, rs, hok, hres⟩ | ⟨hr, herr⟩
  · refine ⟨iff_of_true ⟨rs, hok⟩ hr, fun h => absurd hr h, fun rs' hok' => ?_⟩
    obtain rfl := Except.ok.inj (hok.symm.trans hok')
    exact hres.entries hr ht
  · exact ⟨iff_of_false (fun ⟨rs, hok⟩ => herr.ne_ok rs hok) hr, fun _ => herr,
      fun rs hok => absurd hok (herr.ne_ok rs)⟩

/-- A fault whose carrier is generated. -/
def shut : Fault where
  qualifiedName := .text "shop.Shut"
  elementName := .text "Shut"
  space := .text "urn:shop"
  implicitBeanName := .text "shop.ShutBean"

/-- A fault with a declared carrier, in a namespace. -/
def full (space : String) : Fault where
  qualifiedName := .text "shop.Full"
  elementName := .text "Full"
  space := .text space
  explicitBean := some ⟨.text "shop.FullInfo", .text "full", .text space⟩

/-- Of two faults, one declared twice, both are resolved; if the carrier of that one is to be
generated elsewhere, that is an integrity error. -/
theorem resolveFaults_ok_iff_outages :
    let r : Resolver := ⟨[(["shop"], ["client"])]⟩
    let fs := [shut, full "urn:till", full "urn:shop"]
    let generated : Fault :=
      { full "urn:shop" with explicitBean := none, implicitBeanName := .text "shop.FullBean" }
    Resolver.ofRules [⟨"shop", "client"⟩] = .ok r ∧ (∀ f ∈ generated :: fs, f.Typed) ∧
      (∃ rs, resolveFaults r fs = .ok rs ∧ Entries r fs rs) ∧
      IntegrityError (resolveFaults r (generated :: fs)) := by
  intro r fs generated
  have ht : ∀ f ∈ generated :: fs, f.Typed := by decide
  have hfs : ∀ f ∈ fs, f.Typed := fun f hf => ht f (List.mem_cons_of_mem _ hf)
  have hshut : r.resolve shut = .ok "client.Shut" := by rfl
  have hfull : ∀ space, r.resolve (full space) = .ok "client.Full" := fun _ => by rfl
  have hname : ∀ space, (full space).qualifiedName = .text "shop.Full" := fun _ => rfl
  have hcoherent : Coherent r fs := by
    constructor
    case named => simp [fs, shut, full]
    case agreed => simp [fs, shut, full, Fault.isImplicit, Fault.carrierName]
    case carried => simp [fs, shut, full, Fault.carrierName, Value.nameText, Value.text?]
    case apart => simp [fs, hshut, hfull, hname]
  have hincoherent : ¬Coherent r (generated :: fs) := fun h => by
    have hsame := h.agreed generated (by simp) (full "urn:shop") (by simp [fs]) rfl
    cases hsame.1
  obtain ⟨rs, hok⟩ := (resolveFaults_ok_iff r hfs).1.2 hcoherent
  exact ⟨rfl, ht, ⟨rs, hok, (resolveFaults_ok_iff r hfs).2.2 rs hok⟩,
    (resolveFaults_ok_iff r ht).2.1 hincoherent⟩

end SoapStubs
