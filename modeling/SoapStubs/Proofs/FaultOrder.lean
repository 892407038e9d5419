import Mathlib.Data.List.Sort
import SoapStubs.Proofs.FaultResolution

/-!
# Fault resolution and the order of declarations

Whether declarations can be resolved, and which identifiers and carriers the entries have, does not
depend on the order of the declarations.  The element and the children that an entry shows are
those of the first least declaration, and sort keys leave out the element of a declared carrier, so
that these may depend on it.

* `SameOutcome` says that two resolutions fail alike or show the same entries;
* `resolveFaults_perm_iff`: what never depends on the order, and exactly when nothing does;
* `resolveFaults_order_matters`: two declarations of one fault, in both orders.
-/

namespace SoapStubs

open Fault

/-! ### What an entry shows -/

namespace ResolvedFault

/-- What an entry shows. -/
structure View where
  /-- The identifier of the fault. -/
  identifier : String
  /-- The identifier of its carrier. -/
  carrier : String
  /-- Is the carrier generated? -/
  isImplicit : Bool
  /-- The name of the carrier's element. -/
  elementName : Value
  /-- The namespace of the carrier's element. -/
  elementNamespace : Value
  /-- The elements inside. -/
  children : List ChildElement

/-- What the entry shows. -/
def view (e : ResolvedFault) : View :=
  ⟨e.identifier, e.carrier, e.isImplicit, e.elementName, e.elementNamespace, e.fault.children⟩

theorem identifier_eq_of_view_eq {a b : ResolvedFault} (h : a.view = b.view) :
    a.identifier = b.identifier :=
  congrArg View.identifier h

/-- The identifiers of the entry, and whether its carrier is generated. -/
def identity (e : ResolvedFault) : String × String × Bool := (e.identifier, e.carrier, e.isImplicit)

end ResolvedFault

/-- Both resolutions are integrity errors, or the entries of both show the same. -/
def SameOutcome {β : Type} (shows : ResolvedFault → β)
    (x y : Except Failure (List ResolvedFault)) : Prop :=
  IntegrityError x ∧ IntegrityError y ∨
    ∃ rs rs', x = .ok rs ∧ y = .ok rs' ∧ rs.map shows = rs'.map shows

/-- No declaration of the same fault comes before this one. -/
def LeastDeclared (fs : List Fault) (f : Fault) : Prop :=
  f ∈ fs ∧ ∀ g ∈ fs, g.qualifiedName = f.qualifiedName → g.before f = .ok false

/-! ### Other orders -/

section

variable {r : Resolver} {fs gs : List Fault} {rs rs' : List ResolvedFault} {f g m n : Fault}

theorem Resolvable.perm (h : Resolvable r fs) (hp : gs.Perm fs) : Resolvable r gs where
  named f hf := h.named f (hp.mem_iff.1 hf)
  agreed f hf g hg := h.agreed f (hp.mem_iff.1 hf) g (hp.mem_iff.1 hg)
  carried f hf := h.carried f (hp.mem_iff.1 hf)
  apart f hf g hg := h.apart f (hp.mem_iff.1 hf) g (hp.mem_iff.1 hg)

theorem LeastDeclared.perm (h : LeastDeclared fs f) (hp : gs.Perm fs) : LeastDeclared gs f :=
  ⟨hp.mem_iff.2 h.1, fun g hg => h.2 g (hp.mem_iff.1 hg)⟩

theorem Chosen.mem (h : Chosen fs m) : m ∈ fs := (mem_declaredAs.1 (FirstLeast.mem h)).1

theorem Chosen.leastDeclared (h : Chosen fs m) (ht : ∀ f ∈ fs, f.Typed) : LeastDeclared fs m := by
  refine ⟨h.mem, fun g hg hn => ?_⟩
  have hle : m.key ≤ g.key := FirstLeast.le h (mem_declaredAs.2 ⟨hg, by rw [name, hn]; rfl⟩)
  rw [before_eq (ht g hg) (ht m h.mem), decide_eq_false hle.not_gt]

theorem LeastDeclared.key_le (h : LeastDeclared fs f) (ht : ∀ f ∈ fs, f.Typed) (hg : g ∈ fs)
    (hn : g.qualifiedName = f.qualifiedName) : f.key ≤ g.key := by
  have hb := h.2 g hg hn
  rw [before_eq (ht g hg) (ht f h.1)] at hb
  exact not_lt.1 (of_decide_eq_false (Except.ok.inj hb))

/-- In declarations that can be resolved, names are qualified names. -/
theorem Resolvable.qualifiedName_eq (h : Resolvable r fs) (ht : ∀ f ∈ fs, f.Typed) (hf : f ∈ fs)
    (hg : g ∈ fs) (hn : f.name = g.name) : f.qualifiedName = g.qualifiedName := by
  rw [(ht f hf).qualifiedName.eq_text (h.named f hf),
    (ht g hg).qualifiedName.eq_text (h.named g hg)]
  exact congrArg Value.text hn

/-- An identifier has one entry. -/
theorem Resolution.eq_of_identifier (h : Resolution r fs rs) {a b : ResolvedFault} (ha : a ∈ rs)
    (hb : b ∈ rs) (hab : a.identifier = b.identifier) : a = b := by
  have hsymm : Std.Symm fun a b : ResolvedFault => a.identifier ≠ b.identifier :=
    ⟨fun _ _ h => h.symm⟩
  by_contra hne
  exact (h.ascending.imp fun h => ne_of_lt h).forall ha hb hne hab

theorem Resolution.exists_chosen (h : Resolution r fs rs) (hf : f ∈ fs) :
    ∃ m, Chosen fs m ∧ m.name = f.name ∧ m.entry r ∈ rs := by
  obtain ⟨e, he, hn⟩ := h.complete f hf
  obtain ⟨m, hm, rfl⟩ := h.chosen e he
  exact ⟨m, hm, hn, he⟩

/-- **Entries of two orders.**  If the declarations that are taken for a name show the same in both
orders, then so do the entries. -/
theorem Resolution.map_eq {β : Type} {shows : ResolvedFault → β} (identifier : β → String)
    (hid : ∀ e, identifier (shows e) = e.identifier) (h : Resolution r fs rs)
    (h' : Resolution r gs rs') (hp : gs.Perm fs)
    (hsame : ∀ m n, Chosen fs m → Chosen gs n → m.name = n.name →
      shows (m.entry r) = shows (n.entry r)) :
    rs.map shows = rs'.map shows := by
  have hasc : ∀ {rs : List ResolvedFault}, rs.Pairwise (fun a b => a.identifier < b.identifier) →
      (rs.map shows).Pairwise fun a b => identifier a < identifier b := fun h =>
    List.pairwise_map.2 (h.imp fun {a b} hab => by rwa [hid, hid])
  have hirrefl : Std.Irrefl fun a b : β => identifier a < identifier b := ⟨fun a => lt_irrefl _⟩
  have hantisymm : Std.Antisymm fun a b : β => identifier a < identifier b :=
    ⟨fun a b hab hba => absurd hab hba.asymm⟩
  refine List.Pairwise.eq_of_mem_iff (hasc h.ascending) (hasc h'.ascending) fun {b} => ?_
  simp only [List.mem_map]
  constructor
  · rintro ⟨e, he, rfl⟩
    obtain ⟨m, hm, rfl⟩ := h.chosen e he
    obtain ⟨n, hn, hnm, hmem⟩ := h'.exists_chosen (hp.mem_iff.2 hm.mem)
    exact ⟨_, hmem, (hsame m n hm hn hnm.symm).symm⟩
  · rintro ⟨e, he, rfl⟩
    obtain ⟨n, hn, rfl⟩ := h'.chosen e he
    obtain ⟨m, hm, hmn, hmem⟩ := h.exists_chosen (hp.mem_iff.1 hn.mem)
    exact ⟨_, hmem, hsame m n hm hn hmn⟩

theorem identity_entry (hr : Resolvable r fs) (hm : m ∈ fs) (hn : n ∈ fs) (h : m.name = n.name) :
    (m.entry r).identity = (n.entry r).identity := by
  have hc := hr.agreed m hm n hn h
  have hi : m.isImplicit = n.isImplicit := by
    have himp : ∀ f : Fault, f.isImplicit = f.carrier.implicit := fun f => by
      cases he : f.explicitBean <;> simp [isImplicit, carrier, he]
    rw [himp, himp, hc]
  simp only [ResolvedFault.identity, entry, h, hc, hi]

theorem view_entry_eq_iff (h : (m.entry r).identity = (n.entry r).identity) :
    (m.entry r).view = (n.entry r).view ↔ m.element = n.element ∧ m.children = n.children := by
  simp only [ResolvedFault.identity, Prod.mk.injEq] at h
  simp only [ResolvedFault.view, ResolvedFault.View.mk.injEq, h.1, h.2.1, h.2.2, true_and]
  simp only [entry, Prod.ext_iff, and_assoc]

/-- Resolutions of two orders fail alike or succeed alike. -/
theorem resolveFaults_perm (ht : ∀ f ∈ fs, f.Typed) (hp : gs.Perm fs) :
    IntegrityError (resolveFaults r fs) ∧ IntegrityError (resolveFaults r gs) ∨
      Resolvable r fs ∧ ∃ rs rs', resolveFaults r fs = .ok rs ∧ resolveFaults r gs = .ok rs' ∧
        Resolution r fs rs ∧ Resolution r gs rs' := by
  rcases resolveFaults_cases r ht with ⟨hr, rs, hok, hres⟩ | ⟨hr, herr⟩ <;>
    rcases resolveFaults_cases r fun f hf => ht f (hp.mem_iff.1 hf) with
      ⟨hr', rs', hok', hres'⟩ | ⟨hr', herr'⟩
  · exact .inr ⟨hr, rs, rs', hok, hok', hres, hres'⟩
  · exact absurd (hr.perm hp) hr'
  · exact absurd (hr'.perm hp.symm) hr
  · exact .inl ⟨herr, herr'⟩

/-- A least declaration that comes first is taken. -/
theorem Resolution.entry_mem_of_head (h : Resolution r (f :: fs) rs) (hr : Resolvable r (f :: fs))
    (ht : ∀ g ∈ f :: fs, g.Typed) (hl : LeastDeclared (f :: fs) f) : f.entry r ∈ rs := by
  obtain ⟨m, hm, hn, he⟩ := h.exists_chosen List.mem_cons_self
  have hq := hr.qualifiedName_eq ht hm.mem List.mem_cons_self hn
  have hd : declaredAs (f :: fs) m.name = f :: declaredAs fs m.name := by simp [declaredAs, hn]
  have hle : f.key ≤ m.key := hl.key_le ht hm.mem hq
  rw [Chosen, hd] at hm
  rwa [hm.eq_head hle] at he

/-- If no order changes what entries show, then all least declarations of a name show the same. -/
theorem view_eq_of_perm (ht : ∀ f ∈ fs, f.Typed) (hr : Resolvable r fs)
    (hok : resolveFaults r fs = .ok rs) (hres : Resolution r fs rs)
    (hsame : ∀ gs, gs.Perm fs →
      SameOutcome ResolvedFault.view (resolveFaults r fs) (resolveFaults r gs))
    (hl : LeastDeclared fs f) (hm : m.entry r ∈ rs) (hn : f.name = m.name) :
    (f.entry r).view = (m.entry r).view := by
  -- move the declaration to the front, where it is taken
  obtain ⟨front, back, rfl⟩ := List.append_of_mem hl.1
  have hp : (f :: (front ++ back)).Perm (front ++ f :: back) := List.perm_middle.symm
  have htp : ∀ g ∈ f :: (front ++ back), g.Typed := fun g hg => ht g (hp.mem_iff.1 hg)
  rcases hsame _ hp with ⟨herr, -⟩ | ⟨rs₁, rs₂, h₁, h₂, hmap⟩
  · exact absurd hok (herr.ne_ok rs)
  rw [hok] at h₁
  obtain rfl := Except.ok.inj h₁
  rcases resolveFaults_cases r htp with ⟨hr', rs₃, h₃, hres'⟩ | ⟨-, herr⟩
  swap
  · exact absurd h₂ (herr.ne_ok rs₂)
  rw [h₂] at h₃
  obtain rfl := Except.ok.inj h₃
  have he : (f.entry r).view ∈ rs.map ResolvedFault.view := by
    rw [hmap]
    exact List.mem_map_of_mem (hres'.entry_mem_of_head hr' htp (hl.perm hp))
  obtain ⟨e, he, hview⟩ := List.mem_map.1 he
  have hid : e.identifier = (m.entry r).identifier := by
    rw [ResolvedFault.identifier_eq_of_view_eq hview, identifier_entry, identifier_entry, hn]
  rw [← hview, hres.eq_of_identifier he hm hid]

end

/-! ### The order of declarations -/

/-- **Resolution and order.**  Typed declarations in another order fail alike, or have entries with
the same identifiers and carriers in the same order.  Nothing at all depends on the order exactly if
they fail, or all least declarations of a name show the same element and children. -/
theorem resolveFaults_perm_iff (r : Resolver) {fs : List Fault} (ht : ∀ f ∈ fs, f.Typed) :
    (∀ gs, gs.Perm fs →
      SameOutcome ResolvedFault.identity (resolveFaults r fs) (resolveFaults r gs)) ∧
    ((∀ gs, gs.Perm fs →
      SameOutcome ResolvedFault.view (resolveFaults r fs) (resolveFaults r gs)) ↔
      ((∃ rs, resolveFaults r fs = .ok rs) → ∀ f g, LeastDeclared fs f → LeastDeclared fs g →
        f.qualifiedName = g.qualifiedName → f.element = g.element ∧ f.children = g.children)) := by
  refine ⟨fun gs hp => ?_, fun hsame ⟨rs, hok⟩ f g hf hg hn => ?_, fun hcond gs hp => ?_⟩
  · rcases resolveFaults_perm ht hp with herr | ⟨hr, rs, rs', hok, hok', hres, hres'⟩
    · exact .inl herr
    refine .inr ⟨rs, rs', hok, hok', hres.map_eq Prod.fst (fun _ => rfl) hres' hp
      fun m n hm hn h => ?_⟩
    exact identity_entry hr hm.mem (hp.mem_iff.1 hn.mem) h
  · -- each least declaration comes first in some order, and its entry shows there
    rcases resolveFaults_cases r ht with ⟨hr, rs', hok', hres⟩ | ⟨-, herr⟩
    swap
    · exact absurd hok (herr.ne_ok rs)
    obtain ⟨m, hm, hnm, he⟩ := hres.exists_chosen hf.1
    have hname : g.name = f.name := congrArg Value.nameText hn.symm
    have hfm := view_eq_of_perm ht hr hok' hres hsame hf he hnm.symm
    have hgm := view_eq_of_perm ht hr hok' hres hsame hg he (hname.trans hnm.symm)
    exact (view_entry_eq_iff (identity_entry hr hf.1 hg.1 hname.symm)).1 (hfm.trans hgm.symm)
  · rcases resolveFaults_perm ht hp with herr | ⟨hr, rs, rs', hok, hok', hres, hres'⟩
    · exact .inl herr
    refine .inr ⟨rs, rs', hok, hok', hres.map_eq ResolvedFault.View.identifier
      (fun _ => rfl) hres' hp fun m n hm hn h => ?_⟩
    have hn' : LeastDeclared fs n :=
      (hn.leastDeclared fun f hf => ht f (hp.mem_iff.1 hf)).perm hp.symm
    exact (view_entry_eq_iff (identity_entry hr hm.mem hn'.1 h)).2
      (hcond ⟨rs, hok⟩ m n (hm.leastDeclared ht) hn' (hr.qualifiedName_eq ht hm.mem hn'.1 h))

/-- A declaration of one fault whose carrier is declared under a name and a namespace. -/
def oops (name space : String) : Fault where
  qualifiedName := .text "com.acme.Oops"
  elementName := .text "Oops"
  space := .text "urn:a"
  explicitBean := some ⟨.text "com.acme.OopsInfo", .text name, .text space⟩

theorem typed_oops (name space : String) : (oops name space).Typed where
  qualifiedName := rfl
  elementName := rfl
  space := rfl
  implicitBeanName := rfl
  explicitBean := by
    rintro b ⟨⟩
    exact ⟨rfl, rfl, rfl⟩
  children := by simp [oops]

theorem view_entry_oops (name space : String) : ((oops name space).entry {}).view =
    ⟨"com.acme.Oops", "com.acme.OopsInfo", false, .text name, .text space, []⟩ := by
  have hf : Resolver.resolveName {} "com.acme.Oops" = "com.acme.Oops" := by decide
  have hc : Resolver.resolveName {} "com.acme.OopsInfo" = "com.acme.OopsInfo" := by decide
  have hname : (oops name space).name = "com.acme.Oops" := rfl
  have hbean : (oops name space).carrier.bean.nameText = "com.acme.OopsInfo" := rfl
  simp only [ResolvedFault.view, entry, hname, hbean, hf, hc]
  rfl

/-- Of two such declarations the first is taken. -/
theorem resolveFaults_oops (name space name' space' : String) :
    resolveFaults {} [oops name space, oops name' space'] = .ok [(oops name space).entry {}] := by
  have hd : declarations [oops name space, oops name' space'] =
      .ok [(.text "com.acme.Oops", [oops name space, oops name' space'])] := rfl
  obtain ⟨m, hrep, hleast⟩ := @representative_ok [oops name space, oops name' space']
    (.text "com.acme.Oops") (by simp) (by simp [typed_oops]) (by simp [carrier, oops])
  obtain rfl : m = oops name space := hleast.eq_head (by
    rcases List.mem_pair.1 hleast.mem with rfl | rfl <;> exact le_rfl)
  have hid : Resolver.resolve {} (oops name space) =
      .ok (Resolver.resolveName {} (oops name space).name) :=
    Resolver.resolve_ok _ rfl (show "com.acme.Oops" ≠ "" by decide)
  have he := resolveFault_ok {} (typed_oops name space) (show "com.acme.OopsInfo" ≠ "" by decide)
  simp [resolveFaults, hd, addFault, hrep, hid, he, Ordered.put, Ordered.values]

theorem resolveFaults_perm_iff_oops :
    (∀ f ∈ [oops "zeta" "urn:z", oops "alpha" "urn:a"], f.Typed) ∧
      ¬∀ gs, gs.Perm [oops "zeta" "urn:z", oops "alpha" "urn:a"] →
        SameOutcome ResolvedFault.view
          (resolveFaults {} [oops "zeta" "urn:z", oops "alpha" "urn:a"]) (resolveFaults {} gs) := by
  have ht : ∀ f ∈ [oops "zeta" "urn:z", oops "alpha" "urn:a"], f.Typed := by
    simp [typed_oops]
  have hleast : ∀ f ∈ [oops "zeta" "urn:z", oops "alpha" "urn:a"],
      LeastDeclared [oops "zeta" "urn:z", oops "alpha" "urn:a"] f := by
    have hb : ∀ n s n' s', (oops n s).before (oops n' s') = .ok false := fun _ _ _ _ => rfl
    simp [LeastDeclared, hb]
  refine ⟨ht, fun h => ?_⟩
  have hsame := ((resolveFaults_perm_iff {} ht).2.1 h ⟨_, resolveFaults_oops _ _ _ _⟩ _ _
    (hleast (oops "zeta" "urn:z") (by simp)) (hleast (oops "alpha" "urn:a") (by simp)) rfl).1
  simp [element, oops] at hsame

/-- Two declarations of one fault in two orders: each time the element of the first is shown. -/
theorem resolveFaults_order_matters :
    [oops "alpha" "urn:a", oops "zeta" "urn:z"].Perm [oops "zeta" "urn:z", oops "alpha" "urn:a"] ∧
    (resolveFaults {} [oops "zeta" "urn:z", oops "alpha" "urn:a"]).map (·.map (·.view)) =
      .ok [⟨"com.acme.Oops", "com.acme.OopsInfo", false, .text "zeta", .text "urn:z", []⟩] ∧
    (resolveFaults {} [oops "alpha" "urn:a", oops "zeta" "urn:z"]).map (·.map (·.view)) =
      .ok [⟨"com.acme.Oops", "com.acme.OopsInfo", false, .text "alpha", .text "urn:a", []⟩] := by
  refine ⟨.swap _ _ _, ?_, ?_⟩
  · simp [resolveFaults_oops, Except.map, view_entry_oops]
  · simp [resolveFaults_oops, Except.map, view_entry_oops]

end SoapStubs
