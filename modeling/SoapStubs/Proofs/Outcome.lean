import Mathlib.Data.List.Basic
import SoapStubs.Failure

/-!
# Computations that may fail

Most of the library computes in `Except`.  These are the rules by which its computations are taken
apart, so that a proof need not look into the monad itself.

* `bind_eq_ok`, `map_eq_ok` and `return_eq_ok` say where a result comes from, `bind_eq_error` where
  a failure does, and `exists_of_mapM` where one of a list of results does;
* `Gives` says that whatever a computation returns has a property; `Gives.foldlM` is the rule for a
  loop with an invariant;
* `Succeeds` says that a computation has a result; `succeeds_bind` and `succeeds_mapM` say when.
-/

namespace SoapStubs

variable {ε α β γ : Type} {x : Except ε α} {f : α → Except ε β} {a : α} {b : β}

/-! ### One step after another -/

@[simp]
theorem ok_bind (a : α) (f : α → Except ε β) : (Except.ok a >>= f) = f a := rfl

@[simp]
theorem error_bind (e : ε) (f : α → Except ε β) : (Except.error e >>= f) = .error e := rfl

@[simp]
theorem pure_eq_ok (a : α) : (pure a : Except ε α) = .ok a := rfl

theorem bind_eq_ok : (x >>= f) = .ok b ↔ ∃ a, x = .ok a ∧ f a = .ok b := by
  cases x <;> simp

theorem then_eq_ok {x : Except ε Unit} {y : Except ε β} :
    (x >>= fun _ => y) = .ok b ↔ x = .ok () ∧ y = .ok b := by
  cases x <;> simp

theorem bind_eq_error {e : ε} :
    (x >>= f) = .error e ↔ x = .error e ∨ ∃ a, x = .ok a ∧ f a = .error e := by
  cases x <;> simp

theorem exists_eq_error (h : ∀ a, x ≠ .ok a) : ∃ e, x = .error e := by
  cases x with
  | ok a => exact absurd rfl (h a)
  | error e => exact ⟨e, rfl⟩

theorem map_eq_ok {g : α → β} : x.map g = .ok b ↔ ∃ a, x = .ok a ∧ g a = b := by
  cases x <;> simp [Except.map]

theorem return_eq_ok {g : α → β} :
    (do let a ← x; return g a) = .ok b ↔ ∃ a, x = .ok a ∧ g a = b := by
  cases x <;> simp

theorem bare_eq_ok {x : Except Cause α} : bare x = .ok a ↔ x = .ok a := by
  cases x <;> simp [bare]

theorem bare_eq_error {x : Except Cause α} {e : Failure} :
    bare x = .error e ↔ ∃ c, x = .error c ∧ .bare c = e := by
  cases x <;> simp [bare]

theorem mapM_cons_eq_ok {l : List α} {bs : List β} :
    (a :: l).mapM f = .ok bs ↔ ∃ b, f a = .ok b ∧ ∃ bs', l.mapM f = .ok bs' ∧ b :: bs' = bs := by
  rw [List.mapM_cons, bind_eq_ok]
  simp only [return_eq_ok]

theorem exists_of_mapM {l : List α} {bs : List β} (h : l.mapM f = .ok bs) :
    ∀ b ∈ bs, ∃ a ∈ l, f a = .ok b := by
  induction l generalizing bs with
  | nil =>
    cases h
    simp
  | cons a l ih =>
    obtain ⟨b, ha, bs', hl, rfl⟩ := mapM_cons_eq_ok.1 h
    refine List.forall_mem_cons.2 ⟨⟨a, List.mem_cons_self, ha⟩, fun b' hb' => ?_⟩
    obtain ⟨a', ha', hf⟩ := ih hl b' hb'
    exact ⟨a', List.mem_cons_of_mem _ ha', hf⟩

theorem mapM_map_ok (f : α → Except ε β) (g : β → γ) (l : List α) :
    (l.mapM fun a => (f a).map g) = (l.mapM f).map (List.map g) := by
  induction l with
  | nil => rfl
  | cons a l ih =>
    rw [List.mapM_cons, List.mapM_cons, ih]
    cases f a with
    | error e => rfl
    | ok b => cases l.mapM f <;> rfl

/-! ### What is returned -/

/-- Whatever the computation returns has the property. -/
def Gives (P : α → Prop) (x : Except ε α) : Prop := ∀ a, x = .ok a → P a

namespace Gives

variable {P : α → Prop} {Q : β → Prop}

theorem ok {a : α} (h : P a) : Gives P (.ok a : Except ε α) := by
  rintro _ ⟨⟩
  exact h

theorem error (e : ε) : Gives P (.error e : Except ε α) := nofun

/-- The rule for a value of which the rest needs to know where it comes from. -/
theorem known (hf : ∀ a, x = .ok a → Gives Q (f a)) : Gives Q (x >>= f) := by
  intro b h
  obtain ⟨a, ha, hb⟩ := bind_eq_ok.1 h
  exact hf a ha b hb

theorem bind (hx : Gives P x) (hf : ∀ a, P a → Gives Q (f a)) : Gives Q (x >>= f) :=
  known fun a ha => hf a (hx a ha)

theorem map {g : α → β} (hx : Gives P x) (hg : ∀ a, P a → Q (g a)) : Gives Q (g <$> x) := by
  intro b h
  obtain ⟨a, ha, rfl⟩ := map_eq_ok.1 h
  exact hg a (hx a ha)

/-- The rule for a value that the rest does not depend on. -/
theorem andThen (hf : ∀ a, Gives Q (f a)) : Gives Q (x >>= f) := known fun a _ => hf a

theorem mapM {l : List α} (h : ∀ a ∈ l, Gives Q (f a)) :
    Gives (fun bs => ∀ b ∈ bs, Q b) (l.mapM f) := by
  induction l with
  | nil => exact ok nofun
  | cons a l ih =>
    obtain ⟨ha, hl⟩ := List.forall_mem_cons.1 h
    rw [List.mapM_cons]
    exact ha.bind fun b hb => (ih hl).bind fun bs hbs => ok (List.forall_mem_cons.2 ⟨hb, hbs⟩)

theorem foldlM {step : β → α → Except ε β} {l : List α} {b : β} (hb : Q b)
    (hstep : ∀ b, ∀ a ∈ l, Q b → Gives Q (step b a)) : Gives Q (l.foldlM step b) := by
  induction l generalizing b with
  | nil => exact ok hb
  | cons a l ih =>
    rw [List.foldlM_cons]
    exact (hstep b a List.mem_cons_self hb).bind fun b' hb' =>
      ih hb' fun b'' a' ha' => hstep b'' a' (List.mem_cons_of_mem _ ha')

end Gives

/-! ### Success -/

/-- The computation has a result. -/
def Succeeds (x : Except ε α) : Prop := ∃ a, x = .ok a

theorem succeeds_ok (a : α) : Succeeds (.ok a : Except ε α) := ⟨a, rfl⟩

theorem succeeds_map (g : α → β) : Succeeds (x.map g) ↔ Succeeds x := by
  cases x with
  | error e => exact iff_of_false nofun nofun
  | ok a => exact iff_of_true ⟨g a, rfl⟩ ⟨a, rfl⟩

/-- What follows succeeds under the same condition, whatever the result before it. -/
theorem succeeds_bind {P : Prop} (hf : ∀ a, Succeeds (f a) ↔ P) :
    Succeeds (x >>= f) ↔ Succeeds x ∧ P := by
  cases x with
  | error e => exact iff_of_false nofun fun ⟨hx, _⟩ => nomatch hx
  | ok a => exact (hf a).trans (and_iff_right ⟨a, rfl⟩).symm

theorem succeeds_bind_ok (hf : ∀ a, Succeeds (f a)) :
    Succeeds (x >>= f) ↔ Succeeds x := by
  rw [succeeds_bind fun a => iff_true_intro (hf a), and_true]

theorem succeeds_mapM {l : List α} :
    Succeeds (l.mapM f) ↔ ∀ a ∈ l, Succeeds (f a) := by
  induction l with
  | nil => exact iff_of_true ⟨[], rfl⟩ nofun
  | cons a l ih =>
    rw [List.mapM_cons, List.forall_mem_cons, ← ih]
    exact succeeds_bind fun b => succeeds_bind_ok fun bs => succeeds_ok (b :: bs)

end SoapStubs
