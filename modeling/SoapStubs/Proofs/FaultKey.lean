import Mathlib.Data.List.Lex
import Mathlib.Data.Prod.Lex
import Mathlib.Data.String.Basic
import SoapStubs.FaultResolution
import SoapStubs.Proofs.Outcome
import SoapStubs.Proofs.Typed

/-!
# The order of declarations

Declarations of a fault are compared by their sort keys.  The sort keys of typed declarations are
always comparable, and their order is the lexicographic one of the texts and marks in them.

* `Fault.Key` is a sort key as texts and marks, `Fault.key` that of a declaration;
* `Fault.before_eq`: comparing typed declarations never fails and compares their keys;
* `FirstLeast` says which item `leastM` takes, `leastM_firstLeast` that it does.
-/

namespace SoapStubs

/-! ### The first least item -/

/-- The item is the first of those with the least key. -/
def FirstLeast {α β : Type} [LT β] [LE β] (key : α → β) (l : List α) (m : α) : Prop :=
  ∃ front back, l = front ++ m :: back ∧ (∀ a ∈ front, key m < key a) ∧ ∀ a ∈ back, key m ≤ key a

section Least

variable {α β ε : Type} [LinearOrder β] {key : α → β} {l : List α} {m n : α}

theorem FirstLeast.mem (h : FirstLeast key l m) : m ∈ l := by
  obtain ⟨front, back, rfl, -, -⟩ := h
  simp

theorem FirstLeast.le (h : FirstLeast key l m) {a : α} (ha : a ∈ l) : key m ≤ key a := by
  obtain ⟨front, back, rfl, hf, hb⟩ := h
  rcases List.mem_append.1 ha with ha | ha
  · exact (hf a ha).le
  · rcases List.mem_cons.1 ha with rfl | ha
    · exact le_rfl
    · exact hb a ha

theorem FirstLeast.eq_head (h : FirstLeast key (n :: l) m) (hn : key n ≤ key m) : m = n := by
  obtain ⟨front, back, he, hf, -⟩ := h
  cases front with
  | nil => exact (List.cons.inj he).1.symm
  | cons a front =>
    obtain ⟨rfl, -⟩ := List.cons.inj he
    exact absurd (hf n List.mem_cons_self) hn.not_gt

/-- **The first least item is taken**, if items are compared by a key. -/
theorem leastM_firstLeast {less : α → α → Except ε Bool} {first : α} {rest : List α}
    (hless : ∀ a ∈ first :: rest, ∀ b ∈ first :: rest, less a b = .ok (decide (key a < key b))) :
    ∃ m, leastM less first rest = .ok m ∧ FirstLeast key (first :: rest) m := by
  induction rest generalizing first with
  | nil => exact ⟨first, rfl, [], [], rfl, by simp, by simp⟩
  | cons a rest ih =>
    have hstep : leastM less first (a :: rest) =
        leastM less (if key a < key first then a else first) rest := by
      simp [leastM, hless a (by simp) first (by simp)]
    have mem_of_cons : ∀ {b}, b ∈ first :: rest → b ∈ first :: a :: rest := fun hb =>
      List.cons_subset_cons _ (List.subset_cons_self _ _) hb
    by_cases ha : key a < key first
    · rw [hstep, if_pos ha]
      obtain ⟨m, hm, hl⟩ := ih fun b hb c hc =>
        hless b (List.mem_cons_of_mem _ hb) c (List.mem_cons_of_mem _ hc)
      obtain ⟨front, back, he, hf, hb⟩ := id hl
      refine ⟨m, hm, first :: front, back, by rw [he]; rfl, fun b hb => ?_, hb⟩
      rcases List.mem_cons.1 hb with rfl | hb
      · exact lt_of_le_of_lt (hl.le List.mem_cons_self) ha
      · exact hf b hb
    · rw [hstep, if_neg ha]
      obtain ⟨m, hm, hl⟩ := ih fun b hb c hc =>
        hless b (mem_of_cons hb) c (mem_of_cons hc)
      have hle := hl.le List.mem_cons_self
      obtain ⟨front, back, he, hf, hb⟩ := id hl
      cases front with
      | nil =>
        obtain ⟨rfl, rfl⟩ := List.cons.inj he
        refine ⟨first, hm, [], a :: rest, rfl, by simp, fun b hmem => ?_⟩
        rcases List.mem_cons.1 hmem with rfl | hmem
        · exact not_lt.1 ha
        · exact hb b hmem
      | cons c front =>
        obtain ⟨rfl, rfl⟩ := List.cons.inj he
        have hlt := hf first List.mem_cons_self
        refine ⟨m, hm, first :: a :: front, back, rfl, fun b hmem => ?_, hb⟩
        rcases List.mem_cons.1 hmem with rfl | hmem
        · exact hlt
        rcases List.mem_cons.1 hmem with rfl | hmem
        · exact lt_of_lt_of_le hlt (not_lt.1 ha)
        · exact hf b (List.mem_cons_of_mem _ hmem)

end Least

/-! ### Comparing values -/

namespace Value

variable {α β : Type} [LinearOrder α] [LinearOrder β] {v w : Value} {vs ws : List Value}

/-- Two values are compared as two members of a linear order are. -/
structure ComparedAs (v w : Value) (a b : α) : Prop where
  /-- They are equal if the members are. -/
  equals : equals v w = true ↔ a = b
  /-- The first comes first if its member does. -/
  less : less v w = .ok (decide (a < b))

/-- Two lists of values are compared as two members of a linear order are. -/
structure ItemsComparedAs (vs ws : List Value) (a b : α) : Prop where
  /-- They are equal if the members are. -/
  equals : equalsList vs ws = true ↔ a = b
  /-- The first comes first if its member does. -/
  less : lessItems vs ws = .ok (decide (a < b))

theorem comparedAs_text (s t : String) : ComparedAs (.text s) (.text t) s t :=
  ⟨by simp [Value.equals], rfl⟩

theorem comparedAs_bool (b c : Bool) : ComparedAs (.bool b) (.bool c) b c := by
  cases b <;> cases c <;> exact ⟨by decide, rfl⟩

theorem ItemsComparedAs.tuple {a b : α} (h : ItemsComparedAs vs ws a b) :
    ComparedAs (.tuple vs) (.tuple ws) a b :=
  ⟨h.equals, h.less⟩

theorem ComparedAs.last {a b : α} (h : ComparedAs v w a b) : ItemsComparedAs [v] [w] a b := by
  constructor
  · simp [equalsList, h.equals]
  · by_cases hab : a = b
    · simp [lessItems, h.equals, hab]
    · simp [lessItems, h.equals, h.less, hab]

theorem ComparedAs.cons {a b : α} {c d : β} (h : ComparedAs v w a b)
    (hs : ItemsComparedAs vs ws c d) :
    ItemsComparedAs (v :: vs) (w :: ws) (toLex (a, c)) (toLex (b, d)) := by
  constructor
  · simp [equalsList, h.equals, hs.equals]
  · by_cases hab : a = b
    · simp [lessItems, h.equals, hs.less, hab, Prod.Lex.toLex_lt_toLex]
    · simp [lessItems, h.equals, h.less, hab, Prod.Lex.toLex_lt_toLex]

/-- Lists of values that are compared one by one are compared lexicographically. -/
theorem itemsComparedAs_map {f : α → Value} (h : ∀ a b, ComparedAs (f a) (f b) a b)
    (l l' : List α) : ItemsComparedAs (l.map f) (l'.map f) l l' := by
  induction l generalizing l' with
  | nil => cases l' <;> exact ⟨by simp [equalsList], by simp [lessItems]⟩
  | cons a l ih =>
    cases l' with
    | nil => exact ⟨by simp [equalsList], by simp [lessItems]⟩
    | cons b l' =>
      constructor
      · simp [equalsList, (h a b).equals, (ih l').equals]
      · by_cases hab : a = b
        · subst hab
          simp [lessItems, (h a a).equals, (ih l').less]
        · simp [lessItems, (h a b).equals, (h a b).less, hab, List.cons_lt_cons_iff]

end Value

/-! ### Keys of declarations -/

namespace Fault

/-- The key of an element: its name, the name of its type, and whether it is repeated. -/
abbrev ChildKey := String ×ₗ String ×ₗ Bool

/-- The key of a declaration: namespace and name of its element, how its carrier comes about and
what it is called, and the keys of the elements inside. -/
abbrev Key := String ×ₗ String ×ₗ String ×ₗ String ×ₗ List ChildKey

/-- The key of an element as a value. -/
def ChildKey.value (k : ChildKey) : Value :=
  .tuple [.text (ofLex k).1, .text (ofLex (ofLex k).2).1, .bool (ofLex (ofLex k).2).2]

/-- The key of a declaration as a value. -/
def Key.value (k : Key) : Value :=
  let (space, k) := ofLex k
  let (name, k) := ofLex k
  let (manner, k) := ofLex k
  let (bean, children) := ofLex k
  .tuple [.text space, .text name, .text manner, .text bean, .tuple (children.map ChildKey.value)]

/-- The key of an element of a declaration. -/
def keyOfChild (c : ChildElement) : ChildKey :=
  toLex (c.elementName.nameText, toLex ((c.type.map (·.qualifiedName.nameText)).getD "",
    (c.type.map (·.isCollection)).getD false))

/-- The key of a declaration. -/
def key (f : Fault) : Key :=
  toLex (f.space.nameText, toLex (f.elementName.nameText, toLex (f.carrier.manner,
    toLex (f.carrier.bean.nameText, f.children.map keyOfChild))))

theorem ChildKey.comparedAs (k l : ChildKey) : Value.ComparedAs k.value l.value k l :=
  ((Value.comparedAs_text _ _).cons
    ((Value.comparedAs_text _ _).cons (Value.comparedAs_bool _ _).last)).tuple

theorem Key.comparedAs (k l : Key) : Value.ComparedAs k.value l.value k l :=
  ((Value.comparedAs_text _ _).cons ((Value.comparedAs_text _ _).cons
    ((Value.comparedAs_text _ _).cons ((Value.comparedAs_text _ _).cons
      (Value.itemsComparedAs_map ChildKey.comparedAs _ _).tuple.last)))).tuple

variable {f g : Fault}

theorem Typed.bean_eq (h : f.Typed) : f.carrier.bean = .text f.carrier.bean.nameText := by
  have hb : ∃ v : Value, v.IsName ∧ f.carrier.bean = v.orElse (.text "") := by
    cases he : f.explicitBean with
    | none => exact ⟨_, h.implicitBeanName, by rw [carrier, he]⟩
    | some b => exact ⟨_, (h.explicitBean b he).qualifiedName, by rw [carrier, he]⟩
  obtain ⟨v, hv, hb⟩ := hb
  rw [hb, hv.orElse_empty]
  rfl

theorem childKey_eq {c : ChildElement} (h : c.Typed) : childKey c = (keyOfChild c).value := by
  cases ht : c.type with
  | none =>
    rw [childKey, ht, h.elementName.eq]
    simp [keyOfChild, ChildKey.value, ht]
  | some t =>
    have htyped := h.type t ht
    rw [childKey, ht, h.elementName.eq]
    simp only [htyped.qualifiedName.orElse_empty]
    rw [htyped.collection.eq]
    simp [keyOfChild, ChildKey.value, ht, TypeRef.isCollection]

theorem sortKey_eq (h : f.Typed) : f.sortKey = f.key.value := by
  have hc : f.children.map childKey = (f.children.map keyOfChild).map ChildKey.value := by
    rw [List.map_map]
    exact List.map_congr_left fun c hc => childKey_eq (h.children c hc)
  rw [sortKey, hc, h.bean_eq, h.space.eq, h.elementName.eq]
  rfl

/-- **Comparing declarations.**  Typed declarations can always be compared, and are compared by
their keys. -/
theorem before_eq (hf : f.Typed) (hg : g.Typed) : f.before g = .ok (decide (f.key < g.key)) := by
  rw [before, sortKey_eq hf, sortKey_eq hg]
  exact (Key.comparedAs _ _).less

end Fault

end SoapStubs
