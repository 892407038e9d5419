import SoapStubs.Proofs.Overlay

/-!
# The history of a registry

A registry of its own, or one that lies over another, is written and closed in any order, and some
of the writes fail.  What is left is told by the writes that succeeded, however often a slot was
written and whatever failed in between.  Keys are texts here.

* `Command` is what is asked of a registry, and `follow` leads it through commands; a `Trail` is the
  registry with the writes that succeeded and what was logged on the way;
* `lastWrite` and `overwrites` say of a list of writes what it leaves in a slot and which conflicts
  it has, without a registry;
* `Trail.step_record` says all that a write does, `Traced` is what every command keeps;
* `follow_history` is the theorem about all sequences of commands.
-/

namespace SoapStubs.Registry

/-! ### Commands -/

/-- What is asked of a registry. -/
inductive Command where
  /-- To take a descriptor. -/
  | record (key : String) (d : Descriptor)
  /-- To be closed. -/
  | freeze

/-- A registry and what happened to it. -/
structure Trail where
  registry : Registry
  /-- The writes that succeeded, one after another. -/
  writes : List Write := []
  /-- The entries that were logged. -/
  events : List Event := []

/-- The trail after a command.  After a write that fails, the registry is the one it was. -/
def Trail.step (t : Trail) : Command → Trail
  | .freeze => { t with registry := t.registry.freeze }
  | .record key d =>
    let logged := t.registry.recordLogged (.text key) d
    match logged.result with
    | .ok r => ⟨r, t.writes ++ [(key, d)], t.events ++ logged.events⟩
    | .error _ => { t with events := t.events ++ logged.events }

/-- The trail of a registry through commands. -/
def follow (r : Registry) (commands : List Command) : Trail :=
  commands.foldl Trail.step { registry := r }

/-! ### Lists of writes -/

def Write.slot (w : Write) : String × DescriptorKind := (w.1, w.2.kind)

/-- The last of the writes into a slot. -/
def lastWrite (writes : List Write) (slot : String × DescriptorKind) : Option Descriptor :=
  (writes.filter fun w => w.slot == slot).getLast?.map Prod.snd

/-- The conflicts of writes that follow others: one for each write with another descriptor than the
last one before it into the same slot. -/
def overwrites (before : List Write) : List Write → List Conflict
  | [] => []
  | w :: rest =>
    (conflictOf (.text w.1) w.2 (lastWrite before w.slot)).toList ++ overwrites (before ++ [w]) rest

variable {r r' : Registry} {t : Trail} {writes : List Write} {key : String} {d : Descriptor}

theorem get?_ledger (writes : List Write) (slot : String × DescriptorKind) :
    (ledger writes).get? slot = lastWrite writes slot := by
  rw [ledger, Ordered.get?_ofList, lastWrite, List.filter_map, List.getLast?_map, Option.map_map]
  rfl

theorem overwrites_append (before front back : List Write) :
    overwrites before (front ++ back) =
      overwrites before front ++ overwrites (before ++ front) back := by
  induction front generalizing before with
  | nil => simp [overwrites]
  | cons w front ih => simp [overwrites, ih]

theorem overwrites_concat (writes : List Write) (w : Write) : overwrites [] (writes ++ [w]) =
    overwrites [] writes ++ (conflictOf (.text w.1) w.2 (lastWrite writes w.slot)).toList := by
  simp [overwrites_append, overwrites]

/-! ### One command -/

/-- **What a write does**: it succeeds and leaves what a conflict logs, or fails and leaves all as
it was. -/
theorem Trail.step_record (t : Trail) (key : String) (d : Descriptor) :
    (∃ r c, t.registry.record (.text key) d = .ok (r, c) ∧
      t.step (.record key d) =
        ⟨r, t.writes ++ [(key, d)], t.events ++ c.toList.map Conflict.event⟩) ∨
    ∃ e, t.registry.record (.text key) d = .error e ∧ t.step (.record key d) = t := by
  cases hrecord : t.registry.record (.text key) d with
  | ok p =>
    obtain ⟨r, c⟩ := p
    exact .inl ⟨r, c, rfl, by simp only [step, recordLogged, hrecord]⟩
  | error e => exact .inr ⟨e, rfl, by simp only [step, recordLogged, hrecord, List.append_nil]⟩

/-- A text is refused by a closed registry, if it is empty, and where a registry below has the
slot. -/
theorem record_error_iff : (∃ e, r.record (.text key) d = .error e) ↔
    r.frozen = true ∨ key = "" ∨ r.inherits (.text key, d.kind) = true := by
  by_cases hopen : r.frozen = true
  · exact iff_of_true ⟨_, by rw [record, if_pos hopen]⟩ (.inl hopen)
  by_cases hkey : key = ""
  · subst hkey
    exact iff_of_true ⟨_, by rw [record, if_neg hopen]; rfl⟩ (.inr (.inl rfl))
  rcases record_cases (by simpa using hopen) hkey d with ⟨hno, r', c, hok⟩ | ⟨hyes, herr⟩
  · simp [hok, hopen, hkey, hno]
  · obtain ⟨e, he, -⟩ := herr
    exact iff_of_true ⟨_, he⟩ (.inr (.inr hyes))

theorem inherits_iff {kind : DescriptorKind} : r.inherits (.text key, kind) = true ↔
    ∃ p d, r.parent? = some p ∧ p.get? (.text key) kind = .ok (some d) := by
  have hget : ∀ p : Registry, p.get? (.text key) kind = .ok (p.lookup (.text key, kind)) :=
    fun _ => rfl
  rw [inherits]
  cases r.parent? with
  | none => simp
  | some p => simp [hget, Option.isSome_iff_exists]

/-- What the registry of a trail has, in terms of the writes that succeeded. -/
structure Traced (r : Registry) (t : Trail) : Prop where
  /-- What is below is as it was. -/
  parent : t.registry.parent? = r.parent?
  slots : t.registry.own.slots = (ledger t.writes).map fun p => (textSlot p.1, p.2)
  conflicts : t.registry.conflicts = overwrites [] t.writes
  /-- Each was logged. -/
  events : t.events = t.registry.conflicts.map Conflict.event

/-- Every command keeps this. -/
theorem Traced.step (h : Traced r t) (c : Command) : Traced r (t.step c) := by
  cases c with
  | freeze =>
    have hown : t.registry.freeze.own = { t.registry.own with frozen := true } := own_withOwn _ _
    have hconflicts : t.registry.freeze.conflicts = t.registry.conflicts :=
      (congrArg Layer.conflicts hown :)
    constructor
    case parent => exact (parent?_withOwn _ _).trans h.parent
    case slots => exact (congrArg Layer.slots hown).trans h.slots
    case conflicts => exact hconflicts.trans h.conflicts
    case events => exact h.events.trans (congrArg (List.map Conflict.event) hconflicts).symm
  | record key d =>
    rcases t.step_record key d with ⟨r', c, hrecord, hstep⟩ | ⟨-, -, hstep⟩
    swap
    · rwa [hstep]
    -- what the write finds in its slot is the last write before it
    have hget : t.registry.own.slots.get? (.text key, d.kind) =
        lastWrite t.writes (key, d.kind) := by
      rw [h.slots, ← get?_ledger]
      exact Ordered.get?_mapKeys textSlot_beq _ (key, d.kind)
    obtain ⟨-, -, -, hc, rfl⟩ := record_inv hrecord
    rw [hget] at hc
    rw [hstep]
    have hconflicts : (t.registry.withOwn { t.registry.own with
        slots := t.registry.own.slots.put (.text key, d.kind) d
        conflicts := t.registry.own.conflicts ++ c.toList }).conflicts =
          t.registry.conflicts ++ c.toList := by
      rw [Registry.conflicts, own_withOwn, Registry.conflicts]
    constructor
    case parent => exact (parent?_withOwn _ _).trans h.parent
    case slots =>
      rw [own_withOwn, ledger_concat, ← Ordered.put_mapKeys textSlot_beq, ← h.slots]
      rfl
    case conflicts =>
      rw [hconflicts, h.conflicts, overwrites_concat, hc]
      rfl
    case events => rw [hconflicts, h.events, List.map_append]

/-! ### Any commands -/

theorem follow_concat (r : Registry) (commands : List Command) (c : Command) :
    r.follow (commands ++ [c]) = (r.follow commands).step c := by
  simp [follow]

theorem traced_follow (hr : r.own = {}) (commands : List Command) :
    Traced r (r.follow commands) := by
  induction commands using List.reverseRecOn with
  | nil =>
    constructor
    case parent => rfl
    case slots => exact congrArg Layer.slots hr
    case conflicts => exact congrArg Layer.conflicts hr
    case events => rw [follow, List.foldl_nil, Registry.conflicts, hr]; rfl
  | append_singleton commands c ih =>
    rw [follow_concat]
    exact ih.step c

theorem frozen_follow (hr : r.frozen = false) (commands : List Command) :
    (r.follow commands).registry.frozen = true ↔ .freeze ∈ commands := by
  induction commands using List.reverseRecOn with
  | nil => simp [follow, hr]
  | append_singleton commands c ih =>
    rw [follow_concat, List.mem_append, List.mem_singleton]
    cases c with
    | freeze =>
      refine iff_of_true ?_ (.inr rfl)
      exact congrArg Layer.frozen (own_withOwn _ _)
    | record key d =>
      have hne : (Command.freeze = .record key d) = False := by simp
      rw [hne, or_false, ← ih]
      rcases (r.follow commands).step_record key d with ⟨r', c, hrecord, hstep⟩ | ⟨-, -, hstep⟩
      · obtain ⟨-, -, -, -, rfl⟩ := record_inv hrecord
        rw [hstep]
        simp [frozen]
      · rw [hstep]

/-- The records of a trail are those of the ledger of its writes. -/
theorem Traced.ownRecords (h : Traced r t) :
    t.registry.ownRecords = (ledger t.writes).map fun p => ⟨.text p.1.1, p.2⟩ := by
  rw [Registry.ownRecords, Layer.records, h.slots, List.map_map]
  rfl

/-- The ledger has a descriptor in a slot of its kind. -/
theorem kind_of_mem_ledger {p : (String × DescriptorKind) × Descriptor}
    (hp : p ∈ ledger writes) : p.2.kind = p.1.2 := by
  rcases Ordered.mem_of_mem_putAll hp with hp | hp
  · cases hp
  · obtain ⟨w, -, rfl⟩ := List.mem_map.1 hp
    rfl

theorem mem_ledger_iff {p : (String × DescriptorKind) × Descriptor} :
    p ∈ ledger writes ↔ lastWrite writes p.1 = some p.2 := by
  have hnodup : (ledger writes).keys.Nodup :=
    @Ordered.nodup_keys_putAll _ _ _ _ [] List.nodup_nil _
  rw [Ordered.mem_iff_get? hnodup, get?_ledger]

theorem records_append (r : Registry) :
    r.records = (r.parent?.map Registry.records).getD [] ++ r.ownRecords := by
  cases r <;> rfl

/-- What a registry went through, and what it is after it. -/
structure History (r : Registry) (commands : List Command) (t : Trail) : Prop where
  /-- The registry lies over the same one. -/
  parent : t.registry.parent? = r.parent?
  /-- It reads what is below, and then its own records. -/
  records : t.registry.records =
    (r.parent?.map Registry.records).getD [] ++ t.registry.ownRecords
  /-- These stand in the order of the first writes into their slots. -/
  order : t.registry.ownRecords.map (fun e => (e.key, e.kind)) =
    (t.writes.map Write.slot).eraseDups.map textSlot
  /-- They are the last writes into their slots. -/
  last : ∀ key d, ⟨.text key, d⟩ ∈ t.registry.ownRecords ↔
    lastWrite t.writes (key, d.kind) = some d
  /-- The conflicts are the writes with another descriptor than the one before, in their order. -/
  conflicts : t.registry.conflicts = overwrites [] t.writes
  /-- Each conflict was logged, and nothing else. -/
  warnings : t.events = t.registry.conflicts.map Conflict.event
  /-- The registry is closed if it was told so. -/
  frozen : t.registry.frozen = true ↔ .freeze ∈ commands
  /-- Another write fails if the registry is closed, the key is empty or the slot is below. -/
  refused : ∀ key d, (∃ e, t.registry.record (.text key) d = .error e) ↔
    .freeze ∈ commands ∨ key = "" ∨
      ∃ p d', r.parent? = some p ∧ p.get? (.text key) d.kind = .ok (some d')
  /-- If it fails, all is as it was. -/
  kept : ∀ key d e, t.registry.record (.text key) d = .error e → t.step (.record key d) = t

/-- **The history of a registry.**  Whatever is asked of a new registry, with or without one below,
its records, its conflicts and the log are those of the writes that succeeded, and a write that
fails changes nothing. -/
theorem follow_history (hr : r.own = {}) (commands : List Command) :
    History r commands (r.follow commands) := by
  have htraced := traced_follow hr commands
  have hfrozen := frozen_follow (congrArg Layer.frozen hr) commands
  constructor
  case parent => exact htraced.parent
  case records => rw [records_append, htraced.parent]
  case order =>
    rw [htraced.ownRecords, List.map_map]
    calc (ledger (r.follow commands).writes).map
          ((fun e : Record => (e.key, e.kind)) ∘ fun p => ⟨.text p.1.1, p.2⟩)
        = (ledger (r.follow commands).writes).keys.map textSlot := by
          rw [Ordered.keys, List.map_map]
          refine List.map_congr_left fun p hp => ?_
          exact congrArg (Prod.mk _) (kind_of_mem_ledger hp)
      _ = _ := by
          rw [ledger, Ordered.keys_ofList, List.map_map]
          rfl
  case last =>
    intro key d
    rw [htraced.ownRecords, ← mem_ledger_iff (p := ((key, d.kind), d)), List.mem_map]
    constructor
    · rintro ⟨p, hp, heq⟩
      have hkind := kind_of_mem_ledger hp
      obtain ⟨⟨k, kind⟩, d'⟩ := p
      obtain ⟨rfl, rfl⟩ : k = key ∧ d' = d := by simpa using heq
      obtain rfl : d'.kind = kind := hkind
      exact hp
    · exact fun hp => ⟨_, hp, rfl⟩
  case conflicts => exact htraced.conflicts
  case warnings => exact htraced.events
  case frozen => exact hfrozen
  case refused =>
    intro key d
    rw [record_error_iff, hfrozen, inherits_congr htraced.parent, inherits_iff]
  case kept =>
    intro key d e he
    rcases (r.follow commands).step_record key d with ⟨r', c, hrecord, -⟩ | ⟨-, -, hstep⟩
    · rw [he] at hrecord
      cases hrecord
    · exact hstep

/-- A slot written three times, with the first descriptor again at the end, one written twice with
the same descriptor, and four writes that fail. -/
def rewrites : List Command :=
  let element (name : String) : Descriptor := .rootElement (.text name) (.text "urn:shop")
  [.record "Cart" (element "cart"), .record "" .oneWay, .record "Till" (element "till"),
    .record "Cart" (element "basket"), .record "Shop" .oneWay, .record "Till" (element "till"),
    .record "Cart" (element "cart"), .freeze, .record "Cart" (element "late"),
    .record "Door" .oneWay]

theorem follow_history_rewrites :
    let below : Registry := .base ⟨[((.text "Shop", .oneWay), .oneWay)], [], true⟩
    let t := (overlay below {}).follow rewrites
    below.above = .ok (overlay below {}) ∧
      t.writes.map Prod.fst = ["Cart", "Till", "Cart", "Till", "Cart"] ∧
      t.registry.ownRecords.map (·.key.nameText) = ["Cart", "Till"] ∧
      t.registry.conflicts.map (fun c => (c.previous.fields.map (·.2.nameText),
        c.current.fields.map (·.2.nameText))) =
          [(["cart", "urn:shop"], ["basket", "urn:shop"]),
            (["basket", "urn:shop"], ["cart", "urn:shop"])] ∧
      History (overlay below {}) rewrites t := by
  intro below t
  exact ⟨rfl, by decide +kernel, by decide +kernel, by decide +kernel, follow_history rfl rewrites⟩

end SoapStubs.Registry
