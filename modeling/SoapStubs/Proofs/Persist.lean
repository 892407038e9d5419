import SoapStubs.Proofs.FreshName
import SoapStubs.Proofs.Stage

/-!
# Metadata is written as one unit

The two files of a run are written together or not at all.

* `writeBoth_error` and `writeBoth_ok` describe the tree after the two texts are written;
* `PersistSpec` says what the caller of `persist` sees: the error or the files, what the files hold,
  and that every other file is as it was;
* `persist_all_or_nothing` is that and what publishing any texts leads to (`PublishSpec`), for every
  tree and whatever the file system refuses.
-/

namespace SoapStubs

/-! ### Documents that cannot be written -/

namespace Json

/-- The value is to blame: it has no form in the format, too many digits, or is inside itself or
nested too deep. -/
def IsRefusal (c : Cause) : Prop :=
  (∃ s, c = .wrongType s) ∨ (∃ s, c = .invalid s) ∨ ∃ s, c = .recursion s

theorem inside_error {α : Type} {c : Cause} {room : Nat} {doing : String}
    {next : Nat → Except Cause α} (h : inside room doing next = .error c) :
    (∃ s, c = .recursion s) ∨ ∃ n, next n = .error c := by
  cases room with
  | zero =>
    cases h
    exact .inl ⟨_, rfl⟩
  | succ room => exact .inr ⟨room, h⟩

theorem checkInt_error {c : Cause} {n : Int} (h : checkInt n = .error c) : IsRefusal c := by
  unfold checkInt at h
  split at h
  · cases h
    exact .inr (.inl ⟨_, rfl⟩)
  · cases h

mutual

theorem checkIn_error {c : Cause} : ∀ {room : Nat} {v : Value},
    checkIn room v = .error c → IsRefusal c
  | _, .date _, h | _, .moment _, h | _, .bytes _, h | _, .set _, h => by
    cases h
    exact .inl ⟨_, rfl⟩
  | _, .loop _, h => by
    cases h
    exact .inr (.inl ⟨_, rfl⟩)
  | _, .int _, h => checkInt_error h
  | _, .list items, h | _, .tuple items, h =>
    (inside_error h).elim (.inr ∘ .inr) fun ⟨_, h⟩ => @checkItems_error _ _ items h
  | _, .map entries, h =>
    (inside_error h).elim (.inr ∘ .inr) fun ⟨_, h⟩ => @checkMembers_error _ _ entries h
  | _, .null, h | _, .bool _, h | _, .float _, h | _, .text _, h => by cases h

theorem checkItems_error {c : Cause} : ∀ {room : Nat} {items : List Value},
    checkItems room items = .error c → IsRefusal c
  | _, [], h => by cases h
  | _, v :: rest, h => by
    rw [checkItems] at h
    rcases bind_eq_error.1 h with hv | ⟨_, -, h⟩
    · exact checkIn_error hv
    · exact checkItems_error h

theorem checkMembers_error {c : Cause} : ∀ {room : Nat} {entries : List (Value × Value)},
    checkMembers room entries = .error c → IsRefusal c
  | _, [], h => by cases h
  | room, (k, v) :: rest, h => by
    have hrest : (checkIn room v >>= fun _ => checkMembers room rest) = .error c →
        IsRefusal c := by
      intro h
      rcases bind_eq_error.1 h with hv | ⟨_, -, h⟩
      · exact checkIn_error hv
      · exact checkMembers_error h
    cases k with
    | int n =>
      rw [checkMembers] at h
      rcases bind_eq_error.1 h with hn | ⟨_, -, h⟩
      · exact checkInt_error hn
      · exact hrest h
    | date | moment | bytes | tuple | list | map | set | loop => cases h; exact .inl ⟨_, rfl⟩
    | null | bool | float | text => exact hrest h

end

theorem check_error {c : Cause} {v : Value} (h : check v = .error c) : IsRefusal c :=
  checkIn_error h

end Json

namespace Metadata

open FileTree

variable {chance : Chance} {t t' t₁ u : FileTree} {l : Location} {q : Request} {f : Files}
  {man : Manifest} {r : Registry} {c : Cause}

/-! ### Writing both texts -/

theorem placeFailure_of_isRefusal (h : Json.IsRefusal c) (problem : Problem) :
    placeFailure q problem c = .bare c := by
  rcases h with ⟨m, rfl⟩ | ⟨m, rfl⟩ | ⟨m, rfl⟩ <;> rfl

/-- A document that cannot be written leaves the staged list of types; any other failure leaves the
tree as it was. -/
theorem writeBoth_error (law : chance.Lawful)
    (h : writeBoth chance t q.files man r q.run q.variant = (t', .error c)) :
    (Json.IsRefusal c ∧ ∃ types, stage chance t 0 q.files.types man.toLines = (t', .ok types)) ∨
      t'.lookup = t.lookup := by
  unfold writeBoth at h
  split at h
  · rename_i h₁; cases h; exact .inr (stage_error law h₁)
  · rename_i t₁ types h₁
    -- nothing discards the staged list of types if the document is refused
    split at h
    · rename_i hcheck
      cases h
      exact .inl ⟨Json.check_error hcheck, types, h₁⟩
    · refine .inr ?_
      split at h
      · rename_i t₂ c' h₂
        cases h
        exact (StagesAll.cons h₁ .nil).lookup_discard law (stage_error law h₂)
      · rename_i t₂ bindings h₂
        obtain ⟨hst, htexts⟩ := files_staged law h₁ h₂
        split at h
        · rename_i u c' hp
          cases h
          exact (publishSpec hst htexts).undone _ _ hp
        · cases h

/-- Something keeps the file with number `i` from being written: a refusal while its text is
staged, or something that keeps it from being published. -/
def Blocked (chance : Chance) (t : FileTree) (i : Nat) (final : Path) : Prop :=
  chance.refuses (.create i) ≠ none ∨ chance.refuses (.write i) ≠ none ∨ Hindered chance t i final

/-- Where nothing is refused, only a directory at the place blocks a file. -/
theorem not_blocked_none {i : Nat} {final : Path} (h : t.isDirectory final = false) :
    ¬ Blocked .none t i final := by
  rintro (hr | hr | hd | hr | ⟨-, hr | hr⟩)
  on_goal 3 => exact absurd hd (by simp [h])
  all_goals exact hr rfl

/-- The files of the run hold the new texts, and every other file is as it was. -/
structure Written (t : FileTree) (q : Request) (man : Manifest) (r : Registry) (u : FileTree) :
    Prop where
  /-- The list of generated types is there. -/
  types : u.read q.files.types = .ok (.text man.toLines)
  /-- The binding metadata is there. -/
  bindings : u.read q.files.bindings = .ok (.text (bindingsText r q.run q.variant))
  /-- Every other file is as it was, and there is no other file. -/
  other : ∀ l, u.locate q.files.types ≠ .ok l → u.locate q.files.bindings ≠ .ok l →
    u.fileAt l = t.fileAt l

/-- Two texts that could be written are staged and then published. -/
theorem writeBoth_ok_inv (law : chance.Lawful)
    (h : writeBoth chance t q.files man r q.run q.variant = (t', .ok ())) :
    ∃ t₁ types t₂ bindings, stage chance t 0 q.files.types man.toLines = (t₁, .ok types) ∧
      stage chance t₁ 1 q.files.bindings (bindingsText r q.run q.variant) = (t₂, .ok bindings) ∧
      PublishSpec chance t (q.files.texts man.toLines (bindingsText r q.run q.variant))
        [types, bindings] t₂ ∧ publish chance t₂ [types, bindings] = (t', .ok ()) := by
  unfold writeBoth at h
  split at h
  · cases h
  · rename_i t₁ types h₁
    split at h
    · cases h
    · split at h
      · cases h
      · rename_i t₂ bindings h₂
        obtain ⟨hst, htexts⟩ := files_staged law h₁ h₂
        split at h
        · cases h
        · rename_i u hp
          cases h
          exact ⟨t₁, types, t₂, bindings, h₁, h₂, publishSpec hst htexts, hp⟩

/-- Writing both texts changes the two places only, and no directories. -/
theorem writeBoth_lookup (law : chance.Lawful)
    (h : writeBoth chance t q.files man r q.run q.variant = (t', .ok ())) :
    SameDirectories t t' ∧ ∀ l, t'.locate q.files.types ≠ .ok l →
      t'.locate q.files.bindings ≠ .ok l → t'.lookup l = t.lookup l := by
  obtain ⟨t₁, types, t₂, bindings, -, -, hspec, hp⟩ := writeBoth_ok_inv law h
  obtain ⟨hd, -, hother⟩ := hspec.moved t' hp
  exact ⟨hd, fun l hl hl' => hother l (by simp [Files.texts, hl, hl'])⟩

theorem writeBoth_ok (law : chance.Lawful)
    (h : writeBoth chance t q.files man r q.run q.variant = (t', .ok ())) :
    Written t q man r t' ∧ ¬ Blocked chance t 0 q.files.types ∧
      ¬ Blocked chance t 1 q.files.bindings := by
  obtain ⟨t₁, types, t₂, bindings, h₁, h₂, hspec, hp⟩ := writeBoth_ok_inv law h
  obtain ⟨-, hc₀, hw₀, -⟩ := stage_ok law h₁
  obtain ⟨-, hc₁, hw₁, -⟩ := stage_ok law h₂
  obtain ⟨-, htexts, hother⟩ := hspec.moved t' hp
  have hnot : ∀ j p, (q.files.texts man.toLines (bindingsText r q.run q.variant))[j]? = some p →
      ¬ Hindered chance t j p.1 := by
    intro j p hj hh
    obtain ⟨u, c, hc⟩ := hspec.fails j p hj hh
    cases hp.symm.trans hc
  have htypes := htexts (q.files.types, man.toLines) List.mem_cons_self
  have hbindings := htexts (q.files.bindings, bindingsText r q.run q.variant)
    (List.mem_cons_of_mem _ List.mem_cons_self)
  have hnot₀ := hnot 0 (q.files.types, man.toLines) rfl
  have hnot₁ := hnot 1 (q.files.bindings, bindingsText r q.run q.variant) rfl
  refine ⟨⟨htypes, hbindings, fun l hl hl' =>
    fileAt_congr (hother l (by simp [Files.texts, hl, hl']))⟩, ?_, ?_⟩
  · rintro (hb | hb | hb)
    exacts [hb hc₀, hb hw₀, hnot₀ hb]
  · rintro (hb | hb | hb)
    exacts [hb hc₁, hb hw₁, hnot₁ hb]

/-- The places of the run have no null characters if the directory and the run have none. -/
theorem clean_files (hd : q.directory.Clean) (hrun : '\x00' ∉ q.run.toList) :
    q.files.types.Clean ∧ q.files.bindings.Clean := by
  have htypes : '\x00' ∉ typesSuffix.toList := by decide
  have hbindings : '\x00' ∉ bindingsSuffix.toList := by decide
  simp only [Request.files, typesPath, bindingsPath]
  constructor
  · exact hd.child (by simp [hrun, htypes])
  · exact hd.child (by simp [hrun, hbindings])

theorem writeBoth_error_file (law : chance.Lawful) (hd : q.directory.Clean)
    (hrun : '\x00' ∉ q.run.toList)
    (hcheck : Json.check (document r (.text q.run) (.ofOption q.variant)) = .ok ())
    (h : writeBoth chance t q.files man r q.run q.variant = (t', .error c)) : IsFile c := by
  obtain ⟨htypes, hbindings⟩ := clean_files hd hrun
  unfold writeBoth at h
  rw [hcheck] at h
  split at h
  · rename_i h₁; cases h; exact stage_error_file law htypes h₁
  · rename_i t₁ types h₁
    obtain ⟨rfl, -⟩ := stage_ok law h₁
    dsimp only at h
    split at h
    · rename_i h₂; cases h; exact stage_error_file law hbindings h₂
    · rename_i t₂ bindings h₂
      obtain ⟨rfl, -⟩ := stage_ok law h₂
      split at h
      · rename_i u c' hp
        cases h
        refine publish_error_file law (fun s hs => ?_) hp
        rcases List.mem_pair.1 hs with rfl | rfl
        · dsimp only
          exact ⟨(law _ _ _).clean htypes (by decide), htypes⟩
        · dsimp only
          exact ⟨(law _ _ _).clean hbindings (by decide), hbindings⟩
      · cases h

/-- The names that are made up for the files of the run can be used.  No more than ten entries are
made on the way. -/
def Nameable (chance : Chance) (t : FileTree) (f : Files) : Prop :=
  ∀ final ∈ [f.types, f.bindings], ∀ ending ∈ [".tmp", ".bak"], Usable chance t 10 final ending

/-- Numbered names can be used for the files of a run if their paths leave room for them. -/
theorem nameable_beside (hchance : chance.name = beside)
    (hf : ∀ final ∈ [q.files.types, q.files.bindings], (∃ l, t.locate final = .ok l) ∧
      final.name.utf8ByteSize + 14 ≤ longestName ∧ final.text.utf8ByteSize + 14 ≤ longestPath)
    (hlen : t.entries.length + 10 < 10 ^ 8) : Nameable chance t q.files := by
  intro final hfinal ending hending
  obtain ⟨⟨l, hl⟩, hname, htext⟩ := hf final hfinal
  have he : '\x00' ∉ ending.toList ∧ ending.utf8ByteSize = 4 := by
    rcases List.mem_pair.1 hending with rfl | rfl <;> decide
  have hparts : final.parts ≠ [] := by
    obtain ⟨root, front, last, hchild⟩ := Path.child_append q.directory q.run
    rcases List.mem_pair.1 hfinal with rfl | rfl
    · simp [Request.files, typesPath, hchild _ isEnding_typesSuffix]
    · simp [Request.files, bindingsPath, hchild _ isEnding_bindingsSuffix]
  exact usable_beside hchance hl hparts he.1 (by omega) (by omega) hlen

theorem writeBoth_succeeds (man : Manifest) (law : chance.Lawful)
    (hname : Nameable chance t q.files)
    (hcheck : Json.check (document r (.text q.run) (.ofOption q.variant)) = .ok ())
    (h₀ : ¬ Blocked chance t 0 q.files.types) (h₁ : ¬ Blocked chance t 1 q.files.bindings) :
    ∃ t', writeBoth chance t q.files man r q.run q.variant = (t', .ok ()) := by
  simp only [Blocked, not_or, not_not] at h₀ h₁
  obtain ⟨hc₀, hw₀, hh₀⟩ := h₀
  obtain ⟨hc₁, hw₁, hh₁⟩ := h₁
  obtain ⟨m, hm⟩ := (hname q.files.types (by simp) ".tmp" (by simp)).locate
  obtain ⟨t₁, types, hs₁⟩ := stage_succeeds man.toLines law hc₀ hw₀ hm
  obtain ⟨-, -, -, m₁, -, hn₁, hv₁⟩ := stage_ok law hs₁
  have hd₁ : SameDirectories t t₁ := .of_update (by simp [hn₁]) (by simp) hv₁
  have hlen₁ := stage_length hs₁
  have hname₁ := (hname q.files.bindings (by simp) ".tmp" (by simp)).mono (k := 0) hd₁ (by omega)
  obtain ⟨m', hm'⟩ := hname₁.locate
  obtain ⟨t₂, bindings, hs₂⟩ :=
    stage_succeeds (bindingsText r q.run q.variant) law hc₁ hw₁ hm'
  obtain ⟨hst, htexts⟩ := files_staged law hs₁ hs₂
  obtain ⟨t', hp⟩ : ∃ t', publish chance t₂ [types, bindings] = (t', .ok ()) := by
    refine (publishSpec hst htexts).succeeds (fun j p hj => ?_) fun p hp => ?_
    · match j with
      | 0 => cases hj; exact hh₀
      | 1 => cases hj; exact hh₁
      | j + 2 => simp [Files.texts] at hj
    · have hlen₂ := stage_length hs₂
      have hd := hst.sameDirectories law
      -- at most four entries come from staging, and six from publishing
      have hlen : t₂.entries.length + 3 * 2 ≤ t.entries.length + 10 := by omega
      rcases List.mem_pair.1 hp with rfl | rfl
      · exact (hname q.files.types (by simp) ".bak" (by simp)).mono hd hlen
      · exact (hname q.files.bindings (by simp) ".bak" (by simp)).mono hd hlen
  refine ⟨t', ?_⟩
  simp only [writeBoth, hs₁, hcheck, hs₂]
  rw [hp]

/-! ### All or nothing -/

/-- What writing the metadata of a run leads to: both files are written, or no file changes. -/
structure PersistSpec (chance : Chance) (t : FileTree) (q : Request) (man : Manifest)
    (r : Registry) : Prop where
  /-- After a success the two files hold the new texts, and every other file is as it was. -/
  written : ∀ f, (persist chance t q).2.result = .ok f →
    f = q.files ∧ Written t q man r (persist chance t q).1
  /-- An error is one about the metadata, and every file is as it was. -/
  undone : ∀ e, (persist chance t q).2.result = .error (.error e) →
    e.kind = .persistence ∧ (persist chance t q).1.fileAt = t.fileAt
  /-- What blocks one of the files is an error. -/
  fails : ∀ t₁, t.makeDirectories q.directory = .ok t₁ →
    Json.check (document r (.text q.run) (.ofOption q.variant)) = .ok () →
    '\x00' ∉ q.run.toList →
    Blocked chance t₁ 0 q.files.types ∨ Blocked chance t₁ 1 q.files.bindings →
    ∃ e, (persist chance t q).2.result = .error (.error e)
  /-- If nothing blocks either of them, there is no failure. -/
  succeeds : ∀ t₁, t.makeDirectories q.directory = .ok t₁ →
    Json.check (document r (.text q.run) (.ofOption q.variant)) = .ok () →
    Nameable chance t₁ q.files → ¬ Blocked chance t₁ 0 q.files.types →
    ¬ Blocked chance t₁ 1 q.files.bindings → (persist chance t q).2.result = .ok q.files

variable (hman : q.manifest = some man) (hreg : q.registry = some r)

include hman hreg

theorem persist_of_writeBoth_error (hd : t.makeDirectories q.directory = .ok t₁)
    (hw : writeBoth chance t₁ q.files man r q.run q.variant = (u, .error c)) :
    persist chance t q =
      (u, .lift (.error (placeFailure q (.cannotWrite q.directory.text) c))) := by
  simp only [persist, hman, hreg, hd, hw]

theorem persist_of_writeBoth_ok (hd : t.makeDirectories q.directory = .ok t₁)
    (hw : writeBoth chance t₁ q.files man r q.run q.variant = (u, .ok ())) :
    persist chance t q = (u, ⟨[persisted q.files man r], .ok q.files⟩) := by
  simp only [persist, hman, hreg, hd, hw]

/-- Metadata that could be written was written after its directory was made. -/
theorem persist_ok_inv (h : (persist chance t q).2.result = .ok f) : f = q.files ∧
    ∃ t₁, t.makeDirectories q.directory = .ok t₁ ∧
      writeBoth chance t₁ q.files man r q.run q.variant = ((persist chance t q).1, .ok ()) := by
  cases hd : t.makeDirectories q.directory with
  | error c => simp [persist, hman, hreg, hd, Logged.lift] at h
  | ok t₁ =>
    rcases hw : writeBoth chance t₁ q.files man r q.run q.variant with ⟨u, c | ⟨⟩⟩
    · rw [persist_of_writeBoth_error hman hreg hd hw] at h
      cases h
    · rw [persist_of_writeBoth_ok hman hreg hd hw] at h ⊢
      cases h
      exact ⟨rfl, t₁, rfl, hw⟩

theorem persist_written (law : chance.Lawful) (h : (persist chance t q).2.result = .ok f) :
    f = q.files ∧ Written t q man r (persist chance t q).1 := by
  obtain ⟨hf, t₁, hd, hw⟩ := persist_ok_inv hman hreg h
  obtain ⟨hwritten, -⟩ := writeBoth_ok law hw
  exact ⟨hf, hwritten.types, hwritten.bindings, fun l hl hl' => by
    rw [hwritten.other l hl hl', (makeDirectories_inv hd).2]⟩

theorem persist_undone (law : chance.Lawful) {e : Error}
    (h : (persist chance t q).2.result = .error (.error e)) :
    e.kind = .persistence ∧ (persist chance t q).1.fileAt = t.fileAt := by
  cases hd : t.makeDirectories q.directory with
  | error c =>
    have hp : persist chance t q =
        (t, .lift (.error (placeFailure q (.cannotCreate q.directory.text) c))) := by
      simp only [persist, hman, hreg, hd]
    rw [hp] at h ⊢
    cases c <;> cases h
    exact ⟨rfl, rfl⟩
  | ok t₁ =>
    rcases hw : writeBoth chance t₁ q.files man r q.run q.variant with ⟨u, c | ⟨⟩⟩
    · rw [persist_of_writeBoth_error hman hreg hd hw] at h ⊢
      simp only [Logged.lift, Except.error.injEq] at h
      rcases writeBoth_error law hw with ⟨hrefusal, -⟩ | hl
      · cases h.symm.trans (placeFailure_of_isRefusal hrefusal _)
      · cases c <;> cases h
        exact ⟨rfl, (funext fun l => fileAt_congr (congrFun hl l)).trans (makeDirectories_inv hd).2⟩
    · rw [persist_of_writeBoth_ok hman hreg hd hw] at h
      cases h

theorem persist_fails (law : chance.Lawful) (hd : t.makeDirectories q.directory = .ok t₁)
    (hcheck : Json.check (document r (.text q.run) (.ofOption q.variant)) = .ok ())
    (hrun : '\x00' ∉ q.run.toList)
    (hb : Blocked chance t₁ 0 q.files.types ∨ Blocked chance t₁ 1 q.files.bindings) :
    ∃ e, (persist chance t q).2.result = .error (.error e) := by
  rcases hw : writeBoth chance t₁ q.files man r q.run q.variant with ⟨u, c | ⟨⟩⟩
  · rw [persist_of_writeBoth_error hman hreg hd hw]
    have hclean := (pathProblem?_eq_none_iff.1 (makeDirectories_inv hd).1).1
    obtain ⟨problem, path, rfl⟩ := writeBoth_error_file law hclean hrun hcheck hw
    exact ⟨_, rfl⟩
  · obtain ⟨-, h₀, h₁⟩ := writeBoth_ok law hw
    exact absurd hb (not_or.2 ⟨h₀, h₁⟩)

theorem persist_succeeds (law : chance.Lawful) (hd : t.makeDirectories q.directory = .ok t₁)
    (hcheck : Json.check (document r (.text q.run) (.ofOption q.variant)) = .ok ())
    (hname : Nameable chance t₁ q.files) (h₀ : ¬ Blocked chance t₁ 0 q.files.types)
    (h₁ : ¬ Blocked chance t₁ 1 q.files.bindings) :
    (persist chance t q).2.result = .ok q.files := by
  obtain ⟨u, hw⟩ := writeBoth_succeeds man law hname hcheck h₀ h₁
  rw [persist_of_writeBoth_ok hman hreg hd hw]

omit hman hreg

/-- Where there is nothing, a run stores its metadata. -/
theorem persist_succeeds_empty {variant : Option String}
    (hcheck : Json.check (document r (.text "run") (.ofOption variant)) = .ok ()) :
    let q : Request := ⟨some man, some r, ⟨"", []⟩, "run", variant⟩
    (persist .none {} q).2.result = .ok q.files := by
  intro q
  have hf : q.files = ⟨⟨"", ["run.types"]⟩, ⟨"", ["run.bindings.json"]⟩⟩ :=
    congrArg₂ Files.mk (by decide : typesPath ⟨"", []⟩ "run" = ⟨"", ["run.types"]⟩)
      (by decide : bindingsPath ⟨"", []⟩ "run" = ⟨"", ["run.bindings.json"]⟩)
  have hd : makeDirectories {} ⟨"", []⟩ = .ok {} := makeDirectories_of_isDirectory (by decide)
  refine persist_succeeds rfl rfl (.of_beside rfl) hd hcheck (nameable_beside rfl ?_ (by decide))
    (not_blocked_none (by rw [hf]; decide)) (not_blocked_none (by rw [hf]; decide))
  rw [hf]
  intro final hfinal
  rcases List.mem_pair.1 hfinal with rfl | rfl
  · exact ⟨⟨_, locate_eq_ok_iff.2 ⟨by decide, rfl⟩⟩, by decide, by decide⟩
  · exact ⟨⟨_, locate_eq_ok_iff.2 ⟨by decide, rfl⟩⟩, by decide, by decide⟩

/-- **Metadata is written as one unit.**  Wherever the file system refuses, or a directory stands at
a place, publishing undoes what it did, and `persist` ends in an error about the metadata with
every file as it was and none left over; if nothing keeps it from it, the files hold the new texts
and every other file is as it was. -/
theorem persist_all_or_nothing (chance : Chance) (law : chance.Lawful) :
    (∀ t texts staged u, Publishable chance t texts → StagesAll chance t 0 texts staged u →
      PublishSpec chance t texts staged u) ∧
      ∀ t q man r, q.manifest = some man → q.registry = some r → PersistSpec chance t q man r :=
  ⟨fun _ _ _ _ htexts hstaged => publishSpec hstaged htexts, fun _ _ _ _ hman hreg => {
    written := fun _ => persist_written hman hreg law
    undone := fun _ => persist_undone hman hreg law
    fails := fun _ => persist_fails hman hreg law
    succeeds := fun _ => persist_succeeds hman hreg law }⟩

/-- If the second file cannot be moved, the first one has its old text again; if nothing is
refused, both have the new texts. -/
theorem persist_all_or_nothing_second_move :
    let refusing : Chance := { refuses := fun p => if p = .move 1 then some .denied else none }
    let t : FileTree := ⟨[(["out"], .directory), (["out", "run.types"], .file (.text "old"))]⟩
    let q : Request := ⟨some {}, some .empty, ⟨"", ["out"]⟩, "run", none⟩
    (∃ e, (persist refusing t q).2.result = .error (.error e) ∧ e.kind = .persistence) ∧
      (persist refusing t q).1.fileAt = t.fileAt ∧
      (persist .none t q).2.result = .ok q.files ∧
      Written t q {} .empty (persist .none t q).1 := by
  intro refusing t q
  have hd : t.makeDirectories q.directory = .ok t := makeDirectories_of_isDirectory (by decide)
  have h := (persist_all_or_nothing refusing (.of_beside rfl)).2 t q {} .empty rfl rfl
  obtain ⟨e, he⟩ := h.fails t hd rfl (by decide) (.inr (.inr (.inr (.inr (.inl (by decide))))))
  obtain ⟨hkind, hfiles⟩ := h.undone e he
  have h' := (persist_all_or_nothing .none (.of_beside rfl)).2 t q {} .empty rfl rfl
  have hok : (persist .none t q).2.result = .ok q.files := by
    have hf : q.files = ⟨⟨"", ["out", "run.types"]⟩, ⟨"", ["out", "run.bindings.json"]⟩⟩ := by
      decide
    refine h'.succeeds t hd rfl (nameable_beside rfl ?_ (by decide))
      (not_blocked_none (by rw [hf]; decide)) (not_blocked_none (by rw [hf]; decide))
    rw [hf]
    intro final hfinal
    rcases List.mem_pair.1 hfinal with rfl | rfl
    · exact ⟨⟨_, locate_eq_ok_iff.2 ⟨by decide, rfl⟩⟩, by decide, by decide⟩
    · exact ⟨⟨_, locate_eq_ok_iff.2 ⟨by decide, rfl⟩⟩, by decide, by decide⟩
  exact ⟨⟨e, he, hkind⟩, hfiles, hok, (h'.written _ hok).2⟩

end Metadata

end SoapStubs
