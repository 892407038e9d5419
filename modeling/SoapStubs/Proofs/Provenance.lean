import Mathlib.Data.List.Induction
import SoapStubs.Proofs.FaultResolution
import SoapStubs.Proofs.Manifest

/-!
# The history of a manifest

A manifest is written and closed in any order, and some of the declarations are refused.  Whatever
happened, the origin it has for an identifier is the one of every declaration of it that was not
refused, and this decides what the next declaration leads to.

* `Manifest.add_eq_fresh_iff`, `Manifest.add_eq_again_iff` and `Manifest.integrityError_add_iff` are
  the three outcomes of a declaration on an open manifest;
* `Manifest.Declared` says of commands, without looking into the manifest they lead to, that an
  identifier was declared from a name, and `Manifest.get?_origins_follow` that the manifest knows
  just this;
* `Manifest.follow_provenance` is the theorem about all sequences of commands.
-/

namespace SoapStubs.Manifest

variable {m m' : Manifest} {identifier o : String} {origin : Option String}
  {commands later : List Command} {command : Command}

/-! ### One declaration -/

/-- A declaration that is new puts its identifier behind the others. -/
theorem add_eq_fresh_iff : m.add identifier origin = .ok (m', true) ↔
    m.frozen = false ∧ m.origins.get? identifier = none ∧
      m' = { m with origins := m.origins ++ [(identifier, originOf identifier origin)] } := by
  rw [add_eq_ok_iff]
  constructor
  · rintro ⟨hopen, -, hnone, rfl⟩
    have hget : m.origins.get? identifier = none := Option.isNone_iff_eq_none.1 hnone.symm
    exact ⟨hopen, hget, by rw [Ordered.put_of_get?_eq_none _ hget]⟩
  · rintro ⟨hopen, hget, rfl⟩
    rw [Ordered.put_of_get?_eq_none _ hget, hget]
    exact ⟨hopen, by simp, rfl, rfl⟩

/-- A declaration that repeats another one changes nothing. -/
theorem add_eq_again_iff : m.add identifier origin = .ok (m', false) ↔
    m.frozen = false ∧ m.origins.get? identifier = some (originOf identifier origin) ∧ m' = m := by
  rw [add_eq_ok_iff]
  constructor
  · rintro ⟨hopen, hsame, hsome, rfl⟩
    cases hget : m.origins.get? identifier with
    | none => simp [hget] at hsome
    | some o =>
      obtain rfl : o = originOf identifier origin := hsame o hget
      exact ⟨hopen, rfl, by rw [Ordered.put_of_get?_eq_some hget]⟩
  · rintro ⟨hopen, hget, rfl⟩
    rw [Ordered.put_of_get?_eq_some hget, hget]
    exact ⟨hopen, by simp, rfl, rfl⟩

/-- An open manifest finds a collision where it has another origin. -/
theorem integrityError_add_iff (hopen : m.frozen = false) :
    IntegrityError (m.add identifier origin) ↔
      ∃ o, m.origins.get? identifier = some o ∧ o ≠ originOf identifier origin := by
  have hfrozen : ¬m.frozen = true := by simp [hopen]
  constructor
  · rintro ⟨e, he, -⟩
    cases hget : m.origins.get? identifier with
    | none => cases he.symm.trans (add_eq_fresh_iff.2 ⟨hopen, hget, rfl⟩)
    | some o =>
      refine ⟨o, rfl, fun ho => ?_⟩
      cases he.symm.trans (add_eq_again_iff.2 ⟨hopen, ho ▸ hget, rfl⟩)
  · rintro ⟨o, hget, hne⟩
    simp only [add, if_neg hfrozen, hget, if_neg hne]
    exact ⟨_, rfl, rfl⟩

theorem add_of_frozen (h : m.frozen = true) (identifier : String) (origin : Option String) :
    m.add identifier origin = .error (.of (.manifestClosed identifier)) := by
  rw [add, if_pos h]

/-! ### One command -/

/-- A declaration that is not new leaves the manifest as it was, refused or not. -/
theorem step_add_of_not_fresh (h : ∀ m', m.add identifier origin ≠ .ok (m', true)) :
    m.step (.add identifier origin) = m := by
  rw [step]
  split
  · rename_i m' fresh hadd
    cases fresh with
    | true => exact absurd hadd (h m')
    | false => exact (add_eq_again_iff.1 hadd).2.2
  · rfl

/-- **What a command does**: it closes the manifest, puts a new identifier behind the others, or
does nothing. -/
theorem step_cases (m : Manifest) (command : Command) :
    (command = .freeze ∧ m.step command = m.freeze) ∨
    (∃ identifier origin, command = .add identifier origin ∧
      m.add identifier origin = .ok (m.step command, true)) ∨
    ∃ identifier origin, command = .add identifier origin ∧ m.step command = m := by
  cases command with
  | freeze => exact .inl ⟨rfl, rfl⟩
  | add identifier origin =>
    refine .inr ?_
    by_cases hfresh : ∃ m', m.add identifier origin = .ok (m', true)
    · obtain ⟨m', hadd⟩ := hfresh
      have hstep : m.step (.add identifier origin) = m' := by simp only [step, hadd]
      exact .inl ⟨identifier, origin, rfl, hstep ▸ hadd⟩
    · exact .inr ⟨identifier, origin, rfl, step_add_of_not_fresh (not_exists.1 hfresh)⟩

theorem prefix_step (m : Manifest) (command : Command) :
    m.identifiers <+: (m.step command).identifiers := by
  rcases m.step_cases command with ⟨-, hstep⟩ | ⟨_, _, -, hadd⟩ | ⟨_, _, -, hstep⟩
  · rw [hstep]
    exact List.prefix_refl _
  · rw [(add_eq_fresh_iff.1 hadd).2.2, identifiers, identifiers, Ordered.keys, Ordered.keys,
      List.map_append]
    exact List.prefix_append _ _
  · rw [hstep]

theorem frozen_step (m : Manifest) (command : Command) :
    (m.step command).frozen = true ↔ m.frozen = true ∨ command = .freeze := by
  rcases m.step_cases command with ⟨rfl, hstep⟩ | ⟨_, _, rfl, hadd⟩ | ⟨_, _, rfl, hstep⟩
  · simp [hstep, freeze]
  · rw [(add_eq_fresh_iff.1 hadd).2.2]
    simp
  · simp [hstep]

/-- The origins after a command are the ones before it and the one that it declares, if it is not
refused. -/
theorem get?_origins_step (m : Manifest) (command : Command) (identifier o : String) :
    (m.step command).origins.get? identifier = some o ↔
      m.origins.get? identifier = some o ∨
        ∃ origin m' fresh, command = .add identifier origin ∧ originOf identifier origin = o ∧
          m.add identifier origin = .ok (m', fresh) := by
  cases command with
  | freeze => simp [step, freeze]
  | add j origin =>
    cases hadd : m.add j origin with
    | error e =>
      have hstep : m.step (.add j origin) = m := by simp only [step, hadd]
      rw [hstep]
      refine ⟨.inl, ?_⟩
      rintro (hget | ⟨_, _, _, hcommand, -, hok⟩)
      · exact hget
      · cases hcommand
        rw [hadd] at hok
        cases hok
    | ok result =>
      obtain ⟨m', fresh⟩ := result
      have hstep : m.step (.add j origin) = m' := by simp only [step, hadd]
      obtain ⟨-, hsame, -, hput⟩ := add_eq_ok_iff.1 hadd
      rw [hstep, hput, Ordered.get?_put]
      split_ifs with hj
      · subst hj
        constructor
        · intro ho
          exact .inr ⟨origin, m', fresh, rfl, Option.some.inj ho, hadd⟩
        · rintro (hget | ⟨_, _, _, hcommand, ho, -⟩)
          · rw [hsame o hget]
          · cases hcommand
            rw [ho]
      · refine ⟨.inl, ?_⟩
        rintro (hget | ⟨_, _, _, hcommand, -⟩)
        · exact hget
        · cases hcommand
          exact absurd rfl hj

/-! ### Any commands -/

/-- Among the commands is a declaration of the identifier, in effect from the name `o`, that was not
refused when its turn came. -/
def Declared (commands : List Command) (identifier o : String) : Prop :=
  ∃ before origin after m' fresh, commands = before ++ .add identifier origin :: after ∧
    originOf identifier origin = o ∧
    (follow {} before).add identifier origin = .ok (m', fresh)

theorem follow_concat (m : Manifest) (commands : List Command) (command : Command) :
    m.follow (commands ++ [command]) = (m.follow commands).step command := by
  simp [follow]

theorem declared_concat : Declared (commands ++ [command]) identifier o ↔
    Declared commands identifier o ∨
      ∃ origin m' fresh, command = .add identifier origin ∧ originOf identifier origin = o ∧
        (follow {} commands).add identifier origin = .ok (m', fresh) := by
  constructor
  · rintro ⟨before, origin, after, m', fresh, heq, ho, hadd⟩
    rcases after.eq_nil_or_concat' with rfl | ⟨after, last, rfl⟩
    · obtain ⟨rfl, hlast⟩ := List.append_inj' heq rfl
      exact .inr ⟨origin, m', fresh, List.singleton_inj.1 hlast, ho, hadd⟩
    · rw [← List.cons_append, ← List.append_assoc] at heq
      obtain ⟨hfront, -⟩ := List.append_inj' heq rfl
      exact .inl ⟨before, origin, after, m', fresh, hfront, ho, hadd⟩
  · rintro (⟨before, origin, after, m', fresh, rfl, ho, hadd⟩ | ⟨origin, m', fresh, rfl, ho, hadd⟩)
    · exact ⟨before, origin, after ++ [command], m', fresh, by simp, ho, hadd⟩
    · exact ⟨commands, origin, [], m', fresh, rfl, ho, hadd⟩

/-- **What a manifest knows**: the origins are those of the declarations that were not refused. -/
theorem get?_origins_follow (commands : List Command) (identifier o : String) :
    (follow {} commands).origins.get? identifier = some o ↔ Declared commands identifier o := by
  induction commands using List.reverseRecOn with
  | nil => simp [follow, Declared]
  | append_singleton commands command ih =>
    rw [follow_concat, get?_origins_step, declared_concat, ih]

theorem get?_origins_follow_eq_none (commands : List Command) (identifier : String) :
    (follow {} commands).origins.get? identifier = none ↔ ∀ o, ¬Declared commands identifier o := by
  simp only [Option.eq_none_iff_forall_ne_some, ne_eq, get?_origins_follow]

theorem prefix_follow (m : Manifest) (later : List Command) :
    m.identifiers <+: (m.follow later).identifiers := by
  induction later generalizing m with
  | nil => exact List.prefix_refl _
  | cons command later ih => exact (m.prefix_step command).trans (ih (m.step command))

theorem frozen_follow (commands : List Command) :
    (follow {} commands).frozen = true ↔ .freeze ∈ commands := by
  induction commands using List.reverseRecOn with
  | nil => simp [follow]
  | append_singleton commands command ih =>
    rw [follow_concat, frozen_step, ih, List.mem_append, List.mem_singleton, eq_comm (a := command)]

/-- A manifest that is made of identifiers is the one after their declarations. -/
theorem eq_follow_of_foldlM {identifiers : List String}
    (h : identifiers.foldlM (fun m i => (m.add i).map Prod.fst) m = .ok m') :
    m' = m.follow (identifiers.map fun i => .add i none) := by
  induction identifiers generalizing m with
  | nil => exact (Except.ok.inj h).symm
  | cons i identifiers ih =>
    rw [List.foldlM_cons] at h
    obtain ⟨m₁, hfirst, h⟩ := bind_eq_ok.1 h
    obtain ⟨result, hadd, rfl⟩ := map_eq_ok.1 hfirst
    have hstep : m.step (.add i none) = result.1 := by simp only [step, hadd]
    rw [List.map_cons, follow, List.foldl_cons, hstep]
    exact ih h

theorem ofList_eq_follow (identifiers : List String) :
    ofList identifiers = .ok (follow {} (identifiers.map fun i => .add i none)) := by
  obtain ⟨m, hm, -⟩ := ofList_eq identifiers
  rw [hm, eq_follow_of_foldlM hm]

/-- What commands leave, in terms of the declarations among them that were not refused. -/
structure Provenance (commands : List Command) (m : Manifest) : Prop where
  /-- No identifier is there twice. -/
  once : m.identifiers.Nodup
  /-- The identifiers are those that were declared. -/
  lists : ∀ identifier, identifier ∈ m.identifiers ↔ ∃ o, Declared commands identifier o
  /-- Whatever follows puts identifiers behind the ones that are there. -/
  grows : ∀ later, m.identifiers <+: (m.follow later).identifiers
  /-- It is closed if it was told to, and never opens again. -/
  closed : m.frozen = true ↔ .freeze ∈ commands
  /-- A closed manifest refuses every declaration. -/
  refuses : m.frozen = true → ∀ identifier origin,
    m.add identifier origin = .error (.of (.manifestClosed identifier))
  /-- An open one finds a collision just where the identifier was declared from another name. -/
  collides : m.frozen = false → ∀ identifier origin, IntegrityError (m.add identifier origin) ↔
    ∃ o, Declared commands identifier o ∧ o ≠ originOf identifier origin
  /-- It takes an identifier that was not declared, behind the others. -/
  takes : ∀ identifier origin m', m.add identifier origin = .ok (m', true) ↔
    m.frozen = false ∧ (∀ o, ¬Declared commands identifier o) ∧
      m' = { m with origins := m.origins ++ [(identifier, originOf identifier origin)] }
  /-- It stays as it is when the identifier was declared from the same name. -/
  repeats : ∀ identifier origin m', m.add identifier origin = .ok (m', false) ↔
    m.frozen = false ∧ Declared commands identifier (originOf identifier origin) ∧ m' = m
  /-- Any declaration but a new one leaves it as it was. -/
  keeps : ∀ identifier origin, (∀ m', m.add identifier origin ≠ .ok (m', true)) →
    m.step (.add identifier origin) = m

/-- **The history of a manifest**, whatever was asked of it and whatever was refused.  One that was
made of identifiers is the one after their declarations, and a name that is missing or empty counts
as the identifier. -/
theorem follow_provenance :
    (∀ identifiers, ofList identifiers =
      .ok (follow {} (identifiers.map fun i => .add i none))) ∧
    (∀ identifier origin, originOf identifier origin =
      if origin = none ∨ origin = some "" then identifier else origin.getD "") ∧
    ∀ commands, Provenance commands (follow {} commands) := by
  refine ⟨ofList_eq_follow, fun identifier origin => ?_, fun commands => ?_⟩
  · unfold originOf
    split <;> simp_all
  · constructor
    case once => exact nodup_follow (m := {}) List.nodup_nil commands
    case lists =>
      intro identifier
      rw [← not_iff_not, identifiers, ← Ordered.get?_eq_none_iff_notMem,
        get?_origins_follow_eq_none, not_exists]
    case grows => exact prefix_follow _
    case closed => exact frozen_follow commands
    case refuses => exact add_of_frozen
    case collides =>
      intro hopen identifier origin
      simp only [integrityError_add_iff hopen, get?_origins_follow]
    case takes =>
      intro identifier origin m'
      rw [add_eq_fresh_iff, get?_origins_follow_eq_none]
    case repeats =>
      intro identifier origin m'
      rw [add_eq_again_iff, get?_origins_follow]
    case keeps => exact fun _ _ => step_add_of_not_fresh

end SoapStubs.Manifest
