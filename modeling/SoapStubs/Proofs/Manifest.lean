import SoapStubs.Manifest
import SoapStubs.Proofs.Ordered

/-!
# Manifests that can be reached

What declaring identifiers one after another does, whether a declaration is refused or not.

* `Manifest.add_eq_ok_iff` says all that a declaration does: it puts the origin at its identifier,
  where no other origin may be;
* `Manifest.follow` takes commands one after another, and `Manifest.nodup_follow` says that no
  identifier is there twice;
* `Manifest.ofList_eq`: a list of identifiers always makes a manifest, with each of them once.
-/

namespace SoapStubs.Manifest

variable {m m' : Manifest} {identifier : String} {origin : Option String} {fresh : Bool}

/-- **What a declaration does**: an open manifest that has no other origin for the identifier gets
the origin there. -/
theorem add_eq_ok_iff :
    m.add identifier origin = .ok (m', fresh) ↔
      m.frozen = false ∧ (∀ o ∈ m.origins.get? identifier, o = originOf identifier origin) ∧
        fresh = (m.origins.get? identifier).isNone ∧
        m' = { m with origins := m.origins.put identifier (originOf identifier origin) } := by
  obtain ⟨origins, frozen⟩ := m
  cases frozen with
  | true => simp [add]
  | false =>
    cases hget : origins.get? identifier with
    | none => simp [add, hget, eq_comm, and_comm]
    | some o =>
      by_cases ho : o = originOf identifier origin
      · have hput : origins.put identifier (originOf identifier origin) = origins :=
          Ordered.put_of_get?_eq_some (ho ▸ hget)
        simp [add, hget, ho, hput, eq_comm, and_comm]
      · simp [add, hget, ho]

/-! ### Commands -/

/-- What is done to a manifest. -/
inductive Command where
  /-- Declare an identifier that comes from a name, or from itself. -/
  | add (identifier : String) (origin : Option String)
  /-- Close the manifest. -/
  | freeze

/-- The manifest after a command.  One that is refused changes nothing. -/
def step (m : Manifest) : Command → Manifest
  | .add identifier origin =>
    match m.add identifier origin with
    | .ok (m', _) => m'
    | .error _ => m
  | .freeze => m.freeze

/-- The manifest after commands. -/
def follow (m : Manifest) (commands : List Command) : Manifest := commands.foldl step m

theorem nodup_step (h : m.identifiers.Nodup) (command : Command) :
    (m.step command).identifiers.Nodup := by
  cases command with
  | add identifier origin =>
    rw [step]
    split
    · rename_i hadd
      obtain ⟨-, -, -, rfl⟩ := add_eq_ok_iff.1 hadd
      exact Ordered.nodup_keys_put h _ _
    · exact h
  | freeze => exact h

/-- No identifier is in a manifest twice. -/
theorem nodup_follow (h : m.identifiers.Nodup) (commands : List Command) :
    (m.follow commands).identifiers.Nodup := by
  induction commands generalizing m with
  | nil => exact h
  | cons command commands ih => exact ih (nodup_step h command)

theorem eraseDups_identifiers (h : m.identifiers.Nodup) :
    m.identifiers.eraseDups = m.identifiers := by
  have hself : Ordered.ofList m.origins = m.origins :=
    Ordered.ofList_eq_self ((List.pairwise_map.1 h).imp fun hne => beq_false_of_ne hne)
  rw [identifiers, Ordered.keys, ← Ordered.keys_ofList, hself, Ordered.keys]

/-! ### Lists of identifiers -/

/-- Identifiers that come from themselves are never refused by one another. -/
theorem foldlM_add_self (hopen : m.frozen = false)
    (hself : ∀ i, ∀ o ∈ m.origins.get? i, o = i) (identifiers : List String) :
    identifiers.foldlM (fun m i => (m.add i).map Prod.fst) m =
      .ok { m with origins := m.origins.putAll (identifiers.map fun i => (i, i)) } := by
  induction identifiers generalizing m with
  | nil => rfl
  | cons i identifiers ih =>
    have hadd : m.add i =
        .ok ({ m with origins := m.origins.put i i }, (m.origins.get? i).isNone) :=
      add_eq_ok_iff.2 ⟨hopen, hself i, rfl, rfl⟩
    rw [List.foldlM_cons, hadd]
    refine ih hopen fun j o ho => ?_
    rw [Ordered.get?_put] at ho
    split at ho
    · rename_i hj
      rw [hj]
      exact (Option.some.inj ho).symm
    · exact hself j o ho

/-- **A list of identifiers makes a manifest**, with each of them once. -/
theorem ofList_eq (identifiers : List String) :
    ∃ m, ofList identifiers = .ok m ∧ m.identifiers = identifiers.eraseDups := by
  refine ⟨_, foldlM_add_self rfl (fun i o ho => by cases ho) identifiers, ?_⟩
  rw [Manifest.identifiers, ← Ordered.ofList, Ordered.keys_ofList, List.map_map]
  exact congrArg List.eraseDups (List.map_id identifiers)

end SoapStubs.Manifest
