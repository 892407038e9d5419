import Mathlib.Data.List.Induction
import Mathlib.Data.List.Pairwise
import SoapStubs.Proofs.Conversion
import SoapStubs.Proofs.FaultKey
import SoapStubs.Proofs.Ordered

/-!
# What fault resolution does

Typed declarations are resolved exactly if they are named, agree on their carriers, have carriers
with names, and have names whose identifiers differ.  Everything else is an integrity error.

* `Resolvable` is this condition, `Resolution` says which entries the result has;
* `resolveFaults_cases`: one of the two comes about;
* `Fault.entry` is the entry of a declaration, `Chosen` says which declarations have one.
-/

namespace SoapStubs

/-! ### Integrity errors -/

/-- The computation ends with an integrity error. -/
def IntegrityError {α : Type} (x : Except Failure α) : Prop :=
  ∃ e : Error, x = .error (.error e) ∧ e.kind = .integrity

namespace IntegrityError

variable {α β : Type} {x : Except Failure α}

theorem bind (h : IntegrityError x) (f : α → Except Failure β) : IntegrityError (x >>= f) := by
  obtain ⟨e, rfl, he⟩ := h
  exact ⟨e, rfl, he⟩

theorem ne_ok (h : IntegrityError x) (a : α) : x ≠ .ok a := by
  obtain ⟨e, rfl, -⟩ := h
  nofun

end IntegrityError

/-! ### Identifiers -/

namespace Resolver

variable {α : Type} [Named α] (r : Resolver) {a : α}

theorem resolve_error (h : (Named.qualifiedName a).IsName)
    (hs : (Named.qualifiedName a).nameText = "") : IntegrityError (r.resolve a) := by
  have hq : qualifiedName a = qualifiedName.unnamed a := by
    unfold qualifiedName
    rcases h.eq with he | he
    · rw [he]
      rfl
    · rw [he, hs]
      rfl
  rw [resolve, hq]
  exact ⟨_, rfl, rfl⟩

end Resolver

/-! ### Declarations by name -/

namespace Fault

def name (f : Fault) : String := f.qualifiedName.nameText

def declaredAs (fs : List Fault) (n : String) : List Fault := fs.filter fun f => f.name = n

/-- The declarations of each name, names in the order of their first declaration. -/
def grouped (fs : List Fault) : Ordered String (List Fault) :=
  fs.foldl (fun groups f => groups.alter f.name fun found => found.getD [] ++ [f]) []

variable {f g : Fault} {fs : List Fault}

theorem mem_declaredAs {n : String} : f ∈ declaredAs fs n ↔ f ∈ fs ∧ f.name = n := by
  simp [declaredAs]

theorem grouped_concat (fs : List Fault) (f : Fault) : grouped (fs ++ [f]) =
    (grouped fs).put f.name (((grouped fs).get? f.name).getD [] ++ [f]) :=
  Ordered.grouped_concat name fs f

theorem mem_keys_grouped {n : String} : n ∈ (grouped fs).keys ↔ ∃ f ∈ fs, f.name = n := by
  rw [show (grouped fs).keys = (fs.map name).eraseDups from Ordered.keys_grouped name fs,
    List.mem_eraseDups, List.mem_map]

theorem pairwise_grouped (fs : List Fault) :
    (grouped fs).Pairwise fun p q => p.1 ≠ q.1 :=
  List.pairwise_map.1 (Ordered.nodup_keys_grouped name fs)

/-- A group holds the declarations of its name. -/
theorem snd_of_mem_grouped {p : String × List Fault} (h : p ∈ grouped fs) :
    p.2 = declaredAs fs p.1 :=
  Ordered.snd_of_mem_grouped name h

theorem declarations_ok (h : ∀ f ∈ fs, f.qualifiedName.IsText) :
    declarations fs = .ok ((grouped fs).map fun p => (Value.text p.1, p.2)) := by
  have hkeys : ∀ s t : String, (Value.text s == Value.text t) = (s == t) := fun _ _ => rfl
  induction fs using List.reverseRecOn with
  | nil => rfl
  | append_singleton fs f ih =>
    rw [declarations] at ih ⊢
    rw [List.foldlM_append, ih fun g hg => h g (by simp [hg])]
    have hf := (h f (by simp)).eq
    simp only [List.foldlM_cons, List.foldlM_nil, ok_bind]
    rw [hf, grouped_concat, ← Ordered.put_mapKeys hkeys, ← Ordered.get?_mapKeys hkeys]
    rfl

theorem declarations_error (hf : f ∈ fs) (hn : f.qualifiedName = .null)
    (h : ∀ f ∈ fs, f.qualifiedName.IsName) : IntegrityError (declarations fs) := by
  rw [declarations]
  generalize ([] : Ordered Value (List Fault)) = groups
  induction fs generalizing groups with
  | nil => simp at hf
  | cons g fs ih =>
    rw [List.foldlM_cons]
    rcases (h g List.mem_cons_self).eq with hg | hg
    · rw [hg]
      exact ⟨_, rfl, rfl⟩
    · have hfs : f ∈ fs := by
        rcases List.mem_cons.1 hf with rfl | hf
        · rw [hn] at hg
          nomatch hg
        · exact hf
      rw [hg]
      exact ih hfs (fun f hf => h f (List.mem_cons_of_mem _ hf)) _

/-! ### The declaration that is taken -/

theorem carrier_eq_iff (hf : f.Typed) (hg : g.Typed) : f.carrier = g.carrier ↔
    f.carrier.manner = g.carrier.manner ∧ f.carrier.bean.nameText = g.carrier.bean.nameText := by
  have hc : ∀ {c d : Carrier}, c.manner = d.manner → c.bean = d.bean → c = d := by
    rintro ⟨i, b⟩ ⟨j, c⟩ hm rfl
    cases i <;> cases j <;> first | rfl | simp [Carrier.manner] at hm
  constructor
  · intro h
    rw [h]
    exact ⟨rfl, rfl⟩
  · rintro ⟨hm, hb⟩
    exact hc hm (by rw [hf.bean_eq, hg.bean_eq, hb])

theorem length_carriers_le_one_iff (h : ∀ f ∈ fs, f.Typed) :
    (carriers fs).length ≤ 1 ↔ ∀ f ∈ fs, ∀ g ∈ fs, f.carrier = g.carrier := by
  let pairOf : String × String → Value := fun p => .tuple [.text p.1, .text p.2]
  have hpairOf : ∀ p q : String × String, (pairOf p == pairOf q) = (p == q) := fun p q => by
    show ((p.1 == q.1) && ((p.2 == q.2) && true)) = _
    rw [Bool.and_true]
    rfl
  have hlist : fs.map (fun f => (f.carrier.pair, f.carrier)) =
      (fs.map fun f => ((f.carrier.manner, f.carrier.bean.nameText), f.carrier)).map
        fun p => (pairOf p.1, p.2) := by
    rw [List.map_map]
    refine List.map_congr_left fun f hf => ?_
    simp only [Function.comp, pairOf, Carrier.pair]
    rw [← (h f hf).bean_eq]
  have hlength : (carriers fs).length = (Ordered.ofList (fs.map fun f =>
      ((f.carrier.manner, f.carrier.bean.nameText), f.carrier))).length := by
    simp only [carriers, List.length_mergeSort, hlist, Ordered.ofList_mapKeys hpairOf]
    simp [Ordered.values]
  rw [hlength, Ordered.length_ofList_le_one_iff]
  simp only [List.forall_mem_map, Prod.mk.injEq]
  exact forall₂_congr fun f hf => forall₂_congr fun g hg =>
    (carrier_eq_iff (h f hf) (h g hg)).symm

theorem forM_asKey (h : ∀ f ∈ fs, f.Typed) :
    (fs.forM fun f => bare (f.carrier.bean.asKey.map fun _ => ())) = .ok () := by
  induction fs with
  | nil => rfl
  | cons f fs ih =>
    rw [List.forM, (h f List.mem_cons_self).bean_eq]
    exact ih fun g hg => h g (List.mem_cons_of_mem _ hg)

theorem representative_ok (v : Value) (hne : fs ≠ []) (h : ∀ f ∈ fs, f.Typed)
    (hc : ∀ f ∈ fs, ∀ g ∈ fs, f.carrier = g.carrier) :
    ∃ m, representative v fs = .ok m ∧ FirstLeast key fs m := by
  have hl := (length_carriers_le_one_iff h).2 hc
  obtain ⟨f, fs, rfl⟩ := List.exists_cons_of_ne_nil hne
  obtain ⟨m, hm, hleast⟩ := @leastM_firstLeast _ _ _ _ key before f fs fun a ha b hb =>
    before_eq (h a ha) (h b hb)
  refine ⟨m, ?_, hleast⟩
  rw [representative, forM_asKey h, ok_bind]
  split
  · rename_i hcs
    simp [hcs] at hl
  · rw [hm]
    rfl

theorem representative_error (v : Value) (h : ∀ f ∈ fs, f.Typed)
    (hc : ¬ ∀ f ∈ fs, ∀ g ∈ fs, f.carrier = g.carrier) :
    IntegrityError (representative v fs) := by
  rw [← length_carriers_le_one_iff h] at hc
  simp only [representative, forM_asKey h, ok_bind]
  split
  · exact ⟨_, rfl, rfl⟩
  · rename_i hne
    match hcs : carriers fs, hc with
    | [], hc | [_], hc => simp at hc
    | c :: d :: rest, _ => exact absurd hcs (hne c d rest)

/-! ### Entries -/

/-- The name and the namespace of the carrier's element. -/
def element (f : Fault) : Value × Value :=
  match f.explicitBean with
  | none => (f.elementName, f.space)
  | some b => (b.name, b.space)

/-- The entry of a declaration. -/
def entry (r : Resolver) (f : Fault) : ResolvedFault where
  identifier := r.resolveName f.name
  carrier := r.resolveName f.carrier.bean.nameText
  isImplicit := f.isImplicit
  elementName := f.element.1
  elementNamespace := f.element.2
  fault := f

theorem identifier_entry (r : Resolver) (f : Fault) :
    (f.entry r).identifier = r.resolveName f.name := by
  simp only [entry]

/-- The entry with the identifier and the name it is kept under while others are looked for. -/
def slot (r : Resolver) (f : Fault) : String × Value × ResolvedFault :=
  (r.resolveName f.name, .text f.name, f.entry r)

variable (r : Resolver)

theorem bean_of_implicit (h : f.Typed) (he : f.explicitBean = none) :
    f.carrier.bean.nameText = f.implicitBeanName.nameText := by
  rw [carrier, he]
  simp only [h.implicitBeanName.orElse_empty]
  rfl

theorem bean_of_explicit (h : f.Typed) {b : RootElement} (he : f.explicitBean = some b) :
    f.carrier.bean.nameText = b.qualifiedName.nameText := by
  rw [carrier, he]
  simp only [(h.explicitBean b he).qualifiedName.orElse_empty]
  rfl

theorem resolveFault_ok (h : f.Typed) (hb : f.carrier.bean.nameText ≠ "") :
    resolveFault r (r.resolveName f.name) f = .ok (f.entry r) := by
  cases he : f.explicitBean with
  | none =>
    have hbean := bean_of_implicit h he
    rw [hbean] at hb
    have ht : f.implicitBeanName.truthy = true := by
      rw [h.implicitBeanName.truthy]
      simpa using hb
    have hr : r.resolve f.implicitBeanName = .ok (r.resolveName f.implicitBeanName.nameText) :=
      r.resolve_ok (by rw [h.implicitBeanName.eq_text hb]; rfl) hb
    simp [resolveFault, entry, isImplicit, element, he, ht, hr, hbean]
  | some b =>
    have hbean := bean_of_explicit h he
    rw [hbean] at hb
    have hr : r.resolve b = .ok (r.resolveName b.qualifiedName.nameText) :=
      r.resolve_ok ((h.explicitBean b he).qualifiedName.eq_text hb) hb
    simp [resolveFault, entry, isImplicit, element, he, hr, hbean]

theorem resolveFault_error (identifier : String) (h : f.Typed)
    (hb : f.carrier.bean.nameText = "") : IntegrityError (resolveFault r identifier f) := by
  cases he : f.explicitBean with
  | none =>
    rw [bean_of_implicit h he] at hb
    have ht : f.implicitBeanName.truthy = false := by
      rw [h.implicitBeanName.truthy, hb]
      rfl
    simp only [resolveFault, he, ht]
    exact ⟨_, rfl, rfl⟩
  | some b =>
    rw [bean_of_explicit h he] at hb
    simp only [resolveFault, he]
    exact (r.resolve_error (h.explicitBean b he).qualifiedName hb).bind _

/-! ### All groups -/

/-- The declarations of a group are typed and have its name. -/
structure IsGroup (p : String × List Fault) : Prop where
  /-- There is a declaration. -/
  ne_nil : p.2 ≠ []
  /-- They are typed. -/
  typed : ∀ f ∈ p.2, f.Typed
  /-- They have the name of the group. -/
  name : ∀ f ∈ p.2, f.qualifiedName = .text p.1

/-- The group has an entry. -/
structure HasEntry (p : String × List Fault) : Prop where
  named : p.1 ≠ ""
  /-- The declarations agree on the carrier. -/
  agreed : ∀ f ∈ p.2, ∀ g ∈ p.2, f.carrier = g.carrier
  carried : ∀ f ∈ p.2, f.carrier.bean.nameText ≠ ""

variable {p : String × List Fault} {found : Ordered String (Value × ResolvedFault)}

theorem IsGroup.name_eq (h : IsGroup p) {m : Fault} (hm : m ∈ p.2) : m.name = p.1 := by
  rw [Fault.name, h.name m hm]
  rfl

theorem addFault_ok (h : IsGroup p) (he : HasEntry p)
    (hfound : found.get? (r.resolveName p.1) = none) :
    ∃ m, FirstLeast key p.2 m ∧ addFault r found (.text p.1, p.2) = .ok (found ++ [m.slot r]) := by
  obtain ⟨m, hrep, hleast⟩ := representative_ok (.text p.1) h.ne_nil h.typed he.agreed
  have hm := hleast.mem
  have hname := h.name_eq hm
  have hid : r.resolve m = .ok (r.resolveName p.1) := r.resolve_ok (h.name m hm) he.named
  have hentry := resolveFault_ok r (h.typed m hm) (he.carried m hm)
  rw [hname] at hentry
  refine ⟨m, hleast, ?_⟩
  simp [addFault, slot, hrep, hid, hname, hfound, hentry, Ordered.put_of_get?_eq_none _ hfound]

theorem addFault_error (h : IsGroup p)
    (he : ¬(HasEntry p ∧ found.get? (r.resolveName p.1) = none)) :
    IntegrityError (addFault r found (.text p.1, p.2)) := by
  by_cases hc : ∀ f ∈ p.2, ∀ g ∈ p.2, f.carrier = g.carrier
  swap
  · exact (representative_error _ h.typed hc).bind _
  obtain ⟨m, hrep, hleast⟩ := representative_ok (.text p.1) h.ne_nil h.typed hc
  have hm := hleast.mem
  have hq : Named.qualifiedName m = .text p.1 := h.name m hm
  by_cases hn : p.1 = ""
  · have hid : IntegrityError (r.resolve m) :=
      r.resolve_error (by rw [hq]; rfl) (by rw [hq]; exact hn)
    rw [addFault, hrep, ok_bind]
    exact hid.bind _
  have hid : r.resolve m = .ok (r.resolveName p.1) := r.resolve_ok hq hn
  simp only [addFault, hrep, hid, ok_bind]
  cases hfound : found.get? (r.resolveName p.1) with
  | some x => exact ⟨_, rfl, rfl⟩
  | none =>
    have hbean : m.carrier.bean.nameText = "" := by
      by_contra hb
      exact he ⟨⟨hn, hc, fun f hf => by rwa [hc f hf m hm]⟩, hfound⟩
    obtain ⟨e, hr, hkind⟩ := resolveFault_error r (r.resolveName p.1) (h.typed m hm) hbean
    rw [hr]
    exact ⟨e, rfl, hkind⟩

/-- The groups can be added to what was found: each has an entry, and their identifiers are new. -/
structure Addable (found : Ordered String (Value × ResolvedFault))
    (groups : Ordered String (List Fault)) : Prop where
  /-- Each group has an entry. -/
  hasEntry : ∀ p ∈ groups, HasEntry p
  /-- No identifier was found before. -/
  unseen : ∀ p ∈ groups, found.get? (r.resolveName p.1) = none
  /-- No two groups have one identifier. -/
  apart : groups.Pairwise fun p q => r.resolveName p.1 ≠ r.resolveName q.1

variable {groups : Ordered String (List Fault)}

theorem addable_cons {e : String × Value × ResolvedFault} (he : e.1 = r.resolveName p.1) :
    Addable r found (p :: groups) ↔
      (HasEntry p ∧ found.get? (r.resolveName p.1) = none) ∧ Addable r (found ++ [e]) groups := by
  have hget : ∀ k, Ordered.get? (found ++ [e]) k = none ↔
      found.get? k = none ∧ r.resolveName p.1 ≠ k := fun k => by
    simp only [Ordered.get?_eq_none_iff, List.forall_mem_append, List.forall_mem_singleton, he]
    simp
  constructor
  · rintro ⟨he, hu, ha⟩
    obtain ⟨hp, ha⟩ := List.pairwise_cons.1 ha
    rw [List.forall_mem_cons] at he hu
    exact ⟨⟨he.1, hu.1⟩, he.2, fun q hq => (hget _).2 ⟨hu.2 q hq, hp q hq⟩, ha⟩
  · rintro ⟨⟨he, hu⟩, hes, hus, ha⟩
    have hus := fun q hq => (hget _).1 (hus q hq)
    exact ⟨List.forall_mem_cons.2 ⟨he, hes⟩, List.forall_mem_cons.2 ⟨hu, fun q hq => (hus q hq).1⟩,
      List.pairwise_cons.2 ⟨fun q hq => (hus q hq).2, ha⟩⟩

/-- Groups that can be added are added, each with the entry of its first least declaration. -/
theorem foldlM_addFault_ok (hg : ∀ p ∈ groups, IsGroup p) (h : Addable r found groups) :
    ∃ taken : List Fault, (groups.map fun p => (Value.text p.1, p.2)).foldlM (addFault r) found =
        .ok (found ++ taken.map (slot r)) ∧ taken.map name = groups.keys ∧
      ∀ m ∈ taken, ∃ p ∈ groups, FirstLeast key p.2 m := by
  induction groups generalizing found with
  | nil => exact ⟨[], by simp, rfl, by simp⟩
  | cons p groups ih =>
    obtain ⟨hgp, hg⟩ := List.forall_mem_cons.1 hg
    obtain ⟨m, hm, hadd⟩ := addFault_ok r hgp (h.hasEntry p List.mem_cons_self)
      (h.unseen p List.mem_cons_self)
    have hname := hgp.name_eq hm.mem
    obtain ⟨taken, hfold, hnames, htaken⟩ :=
      ih hg ((addable_cons r (e := m.slot r) (by rw [slot, hname])).1 h).2
    refine ⟨m :: taken, ?_, ?_, ?_⟩
    · rw [List.map_cons, List.foldlM_cons, hadd, ok_bind, hfold, List.append_assoc]
      rfl
    · simp only [List.map_cons, hnames, hname, Ordered.keys]
    · intro a ha
      rcases List.mem_cons.1 ha with rfl | ha
      · exact ⟨p, List.mem_cons_self, hm⟩
      · obtain ⟨q, hq, hl⟩ := htaken a ha
        exact ⟨q, List.mem_cons_of_mem _ hq, hl⟩

theorem foldlM_addFault_error (hg : ∀ p ∈ groups, IsGroup p) (h : ¬Addable r found groups) :
    IntegrityError ((groups.map fun p => (Value.text p.1, p.2)).foldlM (addFault r) found) := by
  induction groups generalizing found with
  | nil => exact absurd ⟨by simp, by simp, .nil⟩ h
  | cons p groups ih =>
    obtain ⟨hgp, hg⟩ := List.forall_mem_cons.1 hg
    rw [List.map_cons, List.foldlM_cons]
    by_cases he : HasEntry p ∧ found.get? (r.resolveName p.1) = none
    · obtain ⟨m, hm, hadd⟩ := addFault_ok r hgp he.1 he.2
      have hname := hgp.name_eq hm.mem
      rw [hadd]
      exact ih hg fun hrest => h ((addable_cons r (by rw [slot, hname])).2 ⟨he, hrest⟩)
    · exact (addFault_error r hgp he).bind _

theorem mem_grouped (hf : f ∈ fs) : (f.name, declaredAs fs f.name) ∈ grouped fs := by
  obtain ⟨p, hp, hn⟩ := List.mem_map.1 (mem_keys_grouped.2 ⟨f, hf, rfl⟩)
  rwa [← hn, ← snd_of_mem_grouped hp]

theorem isGroup_grouped (h : ∀ f ∈ fs, f.Typed) (ht : ∀ f ∈ fs, f.qualifiedName.IsText) :
    ∀ p ∈ grouped fs, IsGroup p := by
  intro p hp
  have hd := snd_of_mem_grouped hp
  obtain ⟨f, hf, hn⟩ := mem_keys_grouped.1 (List.mem_map_of_mem hp)
  refine ⟨?_, fun g hg => ?_, fun g hg => ?_⟩
  · rw [hd]
    exact List.ne_nil_of_mem (mem_declaredAs.2 ⟨hf, hn⟩)
  · rw [hd] at hg
    exact h g (mem_declaredAs.1 hg).1
  · rw [hd] at hg
    obtain ⟨hg, hn⟩ := mem_declaredAs.1 hg
    rw [(ht g hg).eq, ← hn]
    rfl

end Fault

/-! ### All declarations -/

/-- The declarations can be resolved. -/
structure Resolvable (r : Resolver) (fs : List Fault) : Prop where
  /-- Each has a name. -/
  named : ∀ f ∈ fs, f.name ≠ ""
  /-- Those of one name have one carrier. -/
  agreed : ∀ f ∈ fs, ∀ g ∈ fs, f.name = g.name → f.carrier = g.carrier
  /-- The carriers have names. -/
  carried : ∀ f ∈ fs, f.carrier.bean.nameText ≠ ""
  /-- Different names have different identifiers. -/
  apart : ∀ f ∈ fs, ∀ g ∈ fs, f.name ≠ g.name → r.resolveName f.name ≠ r.resolveName g.name

/-- The declaration is the first least one of its name. -/
def Chosen (fs : List Fault) (m : Fault) : Prop :=
  FirstLeast Fault.key (Fault.declaredAs fs m.name) m

/-- The entries are those of the declarations that are taken, in the order of identifiers. -/
structure Resolution (r : Resolver) (fs : List Fault) (rs : List ResolvedFault) : Prop where
  ascending : rs.Pairwise fun a b => a.identifier < b.identifier
  /-- Each entry is that of a declaration that is taken. -/
  chosen : ∀ e ∈ rs, ∃ m, Chosen fs m ∧ e = m.entry r
  complete : ∀ f ∈ fs, ∃ e ∈ rs, e.fault.name = f.name

open Fault

variable (r : Resolver) {fs : List Fault}

theorem addable_grouped_iff : Addable r [] (grouped fs) ↔ Resolvable r fs := by
  constructor
  · intro ha
    have he := fun f hf => ha.hasEntry _ (mem_grouped (f := f) hf)
    refine ⟨fun f hf => (he f hf).named, fun f hf g hg hn => ?_, fun f hf => ?_,
      fun f hf g hg hn => ?_⟩
    · exact (he f hf).agreed f (mem_declaredAs.2 ⟨hf, rfl⟩) g (mem_declaredAs.2 ⟨hg, hn.symm⟩)
    · exact (he f hf).carried f (mem_declaredAs.2 ⟨hf, rfl⟩)
    · -- names that differ are two groups, whichever comes first
      have hsymm : Std.Symm fun p q : String × List Fault =>
        r.resolveName p.1 ≠ r.resolveName q.1 := ⟨fun _ _ h => h.symm⟩
      have hne : (f.name, declaredAs fs f.name) ≠ (g.name, declaredAs fs g.name) := fun hp =>
        hn (congrArg Prod.fst hp)
      exact (List.Pairwise.forall ha.apart (mem_grouped hf) (mem_grouped hg) hne :)
  · intro hr
    have hd : ∀ p ∈ grouped fs, p.2 = declaredAs fs p.1 ∧ ∃ f ∈ fs, f.name = p.1 := fun p hp =>
      ⟨snd_of_mem_grouped hp, mem_keys_grouped.1 (List.mem_map_of_mem hp)⟩
    refine ⟨fun p hp => ?_, fun _ _ => rfl, ?_⟩
    · obtain ⟨hp, f, hf, hn⟩ := hd p hp
      have hin : ∀ g ∈ p.2, g ∈ fs ∧ g.name = p.1 := fun g hg => mem_declaredAs.1 (hp ▸ hg)
      refine ⟨hn ▸ hr.named f hf, fun g hg k hk => ?_, fun g hg => hr.carried g (hin g hg).1⟩
      exact hr.agreed g (hin g hg).1 k (hin k hk).1 ((hin g hg).2.trans (hin k hk).2.symm)
    · refine (pairwise_grouped fs).imp_of_mem fun {p q} hp hq hne => ?_
      obtain ⟨-, f, hf, hfn⟩ := hd p hp
      obtain ⟨-, g, hg, hgn⟩ := hd q hq
      rw [← hfn, ← hgn] at hne ⊢
      exact hr.apart f hf g hg hne

theorem resolution_of_taken {taken : List Fault} {rs : List ResolvedFault}
    (hr : Resolvable r fs) (hnames : taken.map name = (grouped fs).keys)
    (htaken : ∀ m ∈ taken, ∃ p ∈ grouped fs, FirstLeast key p.2 m)
    (hperm : rs.Perm (taken.map (entry r)))
    (hsorted : rs.Pairwise fun a b => a.identifier ≤ b.identifier) : Resolution r fs rs := by
  have hchosen : ∀ m ∈ taken, Chosen fs m := fun m hm => by
    obtain ⟨p, hp, hl⟩ := htaken m hm
    rw [snd_of_mem_grouped hp] at hl
    rw [Chosen, (mem_declaredAs.1 hl.mem).2]
    exact hl
  have hmem : ∀ m ∈ taken, m ∈ fs := fun m hm => (mem_declaredAs.1 (hchosen m hm).mem).1
  refine ⟨?_, fun e he => ?_, fun f hf => ?_⟩
  · have hnodup : (taken.map name).Nodup := hnames ▸ List.pairwise_map.2 (pairwise_grouped fs)
    have hne : (taken.map (entry r)).Pairwise fun a b => a.identifier ≠ b.identifier := by
      refine List.pairwise_map.2 ((List.pairwise_map.1 hnodup).imp_of_mem fun hm hn hmn => ?_)
      rw [identifier_entry, identifier_entry]
      exact hr.apart _ (hmem _ hm) _ (hmem _ hn) hmn
    exact (hsorted.and (hperm.symm.pairwise hne fun h => h.symm)).imp fun h =>
      lt_of_le_of_ne h.1 h.2
  · obtain ⟨m, hm, rfl⟩ := List.mem_map.1 (hperm.mem_iff.1 he)
    exact ⟨m, hchosen m hm, rfl⟩
  · have hf := mem_keys_grouped.2 ⟨f, hf, rfl⟩
    rw [← hnames] at hf
    obtain ⟨m, hm, hn⟩ := List.mem_map.1 hf
    exact ⟨m.entry r, hperm.mem_iff.2 (List.mem_map_of_mem hm), hn⟩

theorem pairwise_mergeSort_identifier (rs : List ResolvedFault) :
    (rs.mergeSort fun a b => a.identifier ≤ b.identifier).Pairwise
      fun a b => a.identifier ≤ b.identifier := by
  refine (List.pairwise_mergeSort (fun a b c hab hbc => ?_) (fun a b => ?_) rs).imp
    of_decide_eq_true
  · exact decide_eq_true (le_trans (of_decide_eq_true hab) (of_decide_eq_true hbc))
  · simpa using le_total a.identifier b.identifier

/-- **What resolution does.**  Typed declarations that can be resolved are resolved; others are an
integrity error. -/
theorem resolveFaults_cases (h : ∀ f ∈ fs, f.Typed) :
    (Resolvable r fs ∧ ∃ rs, resolveFaults r fs = .ok rs ∧ Resolution r fs rs) ∨
      (¬Resolvable r fs ∧ IntegrityError (resolveFaults r fs)) := by
  by_cases hnull : ∃ f ∈ fs, f.qualifiedName = .null
  · obtain ⟨f, hf, hn⟩ := hnull
    refine .inr ⟨fun hr => hr.named f hf (by rw [name, hn]; rfl), ?_⟩
    exact (declarations_error hf hn fun g hg => (h g hg).qualifiedName).bind _
  have ht : ∀ f ∈ fs, f.qualifiedName.IsText := fun f hf =>
    (h f hf).qualifiedName.isText fun hn => hnull ⟨f, hf, hn⟩
  have hg := isGroup_grouped h ht
  rw [resolveFaults, declarations_ok ht, ← addable_grouped_iff, ok_bind]
  by_cases ha : Addable r [] (grouped fs)
  · obtain ⟨taken, hfold, hnames, htaken⟩ := foldlM_addFault_ok r hg ha
    refine .inl ⟨ha, _, ?_, resolution_of_taken r ((addable_grouped_iff r).1 ha) hnames htaken
      (List.mergeSort_perm _ _) (pairwise_mergeSort_identifier _)⟩
    rw [hfold]
    simp [Ordered.values, slot, Function.comp_def]
  · obtain ⟨e, he, hkind⟩ := foldlM_addFault_error r hg ha
    rw [he]
    exact .inr ⟨ha, e, rfl, hkind⟩

/-- What is known if declarations were resolved. -/
theorem resolution_of_ok {rs : List ResolvedFault} (h : ∀ f ∈ fs, f.Typed)
    (hok : resolveFaults r fs = .ok rs) : Resolvable r fs ∧ Resolution r fs rs := by
  rcases resolveFaults_cases r h with ⟨hable, rs', hok', hres⟩ | ⟨-, herr⟩
  · obtain rfl := Except.ok.inj (hok.symm.trans hok')
    exact ⟨hable, hres⟩
  · exact absurd hok (herr.ne_ok rs)

end SoapStubs
