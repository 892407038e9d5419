import SoapStubs.Proofs.Persist
import SoapStubs.Proofs.Places
import SoapStubs.Settings.Check

/-!
# The metadata of many runs in one directory

Metadata is written into one directory again and again, for the same and for other runs, and any of
the calls may fail.  However they follow each other, the two files of a run are those of the last
call for that run that succeeded, or those that were there at first.

* `Call`, `after` and `succeeded` are a call, the tree after a history of calls, and the requests
  that were met;
* `FileTree.Unchanged` says that the file at a path is as it was;
* `Call.Into.sameFiles` and `Call.Into.holds` are about one call: one for another run and one that
  fails leave the files of a run as they are, and one that succeeds writes both;
* `persist_last_wins` is about histories.

The tree is arbitrary: the directory may be missing at first, and anything may stand in it.
-/

namespace SoapStubs

namespace FileTree

variable {p : Path} {t u v : FileTree} {c : Content}

/-- The file at the place of a path is as it was, or there is none as before; and if the path led
there, it still does. -/
structure Unchanged (p : Path) (t u : FileTree) : Prop where
  file : u.fileAt p.place = t.fileAt p.place
  leads : ∀ l, t.locate p = .ok l → u.locate p = .ok l

theorem Unchanged.refl (p : Path) (t : FileTree) : Unchanged p t t := ⟨rfl, fun _ h => h⟩

theorem Unchanged.trans (h : Unchanged p t u) (h' : Unchanged p u v) : Unchanged p t v :=
  ⟨h'.file.trans h.file, fun l hl => h'.leads l (h.leads l hl)⟩

/-- A file that can be read can still be read. -/
theorem Unchanged.read (h : Unchanged p t u) (hc : t.read p = .ok c) : u.read p = .ok c := by
  obtain ⟨l, hl, hfile⟩ := read_eq_ok.1 hc
  obtain rfl := place_of_locate hl
  refine read_eq_ok.2 ⟨_, h.leads _ hl, fileAt_eq_some_iff.1 ?_⟩
  rw [h.file, fileAt_eq_some_iff.2 hfile]

end FileTree

namespace Metadata

open FileTree

/-! ### Calls -/

/-- A request, and what is left to chance while it is met. -/
structure Call where
  /-- What is left to chance. -/
  chance : Chance
  /-- What is to be written. -/
  request : Request

/-- The tree and the answer after the call. -/
def Call.perform (t : FileTree) (c : Call) : FileTree × Logged Files := persist c.chance t c.request

/-- The tree after one call after another. -/
def after (t : FileTree) (calls : List Call) : FileTree :=
  calls.foldl (fun t c => (c.perform t).1) t

/-- The requests that are met by one call after another. -/
def succeeded (t : FileTree) : List Call → List Request
  | [] => []
  | c :: calls =>
    let rest := succeeded (c.perform t).1 calls
    if (c.perform t).2.result.isOk then c.request :: rest else rest

def lastFor (run : String) (requests : List Request) : Option Request :=
  (requests.filter (·.run == run)).getLast?

/-- The run has a name that settings accept. -/
def IsRun (run : String) : Prop := Check.runId ["run_id"] (.text run) = .ok run

instance : DecidablePred IsRun := fun _ => inferInstanceAs (Decidable (_ = _))

theorem IsRun.slash_not_mem {run : String} (h : IsRun run) : '/' ∉ run.toList := by
  intro hslash
  have hrefused : (run = "" || run.toList.contains '/' || run.toList.contains '\\') = true := by
    simp [hslash]
  rw [IsRun, Check.runId, Check.string] at h
  simp only [ok_bind, hrefused, if_true] at h
  cases h

/-- A call into the directory, for a run that settings accept. -/
structure Call.Into (directory : Path) (c : Call) : Prop where
  /-- The names that are made up are new. -/
  lawful : c.chance.Lawful
  directory : c.request.directory = directory
  run : IsRun c.request.run

/-! ### Names of files -/

/-- What the names of the two files end in. -/
def suffixes : List String := [typesSuffix, bindingsSuffix]

variable {run run' suffix suffix' : String} {directory : Path}

/-- A file of a run in a directory. -/
theorem place_child (hrun : IsRun run) (hs : suffix ∈ suffixes) :
    (directory.child (run ++ suffix)).place = directory.place ++ [run ++ suffix] := by
  refine (Path.isName_append hrun.slash_not_mem ?_ ?_).place_child directory
  all_goals rcases List.mem_pair.1 hs with rfl | rfl <;> decide

/-- The two files of a run have different names, and so have files of different runs, also where
the name of one run ends like a file of another. -/
theorem append_suffix_inj (hs : suffix ∈ suffixes) (hs' : suffix' ∈ suffixes)
    (h : run ++ suffix = run' ++ suffix') : run = run' ∧ suffix = suffix' := by
  rcases List.mem_pair.1 hs with rfl | rfl <;> rcases List.mem_pair.1 hs' with rfl | rfl
  · exact ⟨(String.append_left_inj _).1 h, rfl⟩
  · exact absurd h (append_ne_append (a := 's') (b := 'n') (by decide) (by decide) (by decide))
  · exact absurd h (append_ne_append (a := 'n') (b := 's') (by decide) (by decide) (by decide))
  · exact ⟨(String.append_left_inj _).1 h, rfl⟩

theorem place_inj (hrun : IsRun run) (hrun' : IsRun run') (hs : suffix ∈ suffixes)
    (hs' : suffix' ∈ suffixes) (h : (directory.child (run ++ suffix)).place =
      (directory.child (run' ++ suffix')).place) : run = run' := by
  rw [place_child hrun hs, place_child hrun' hs', List.append_cancel_left_eq] at h
  exact (append_suffix_inj hs hs' (List.singleton_inj.1 h)).1

/-- A file of a run is not one that is staged. -/
theorem place_not_staged (hrun : IsRun run) (hs : suffix ∈ suffixes) :
    ¬ HasEnding ".tmp" (directory.child (run ++ suffix)).place := by
  rintro ⟨d, name, h⟩
  rw [place_child hrun hs] at h
  have hname : run ++ suffix = name ++ ".tmp" := List.singleton_inj.1 (List.append_inj' h rfl).2
  rcases List.mem_pair.1 hs with rfl | rfl
  · exact append_ne_append (a := 's') (b := 'p') (by decide) (by decide) (by decide) hname
  · exact append_ne_append (a := 'n') (b := 'p') (by decide) (by decide) (by decide) hname

/-! ### One call -/

variable {chance : Chance} {t u v : FileTree} {q : Request} {man : Manifest} {r : Registry}

/-- What a call leaves as it was, whether it succeeds or not: directories, and all files but for
those of its run if it succeeds and one that is staged. -/
structure Spares (t : FileTree) (q : Request) (ok : Bool) (u : FileTree) : Prop where
  /-- No directory goes. -/
  keeps : KeepsDirectories t u
  file : ∀ l, ¬ HasEnding ".tmp" l →
    (ok = true → l ≠ q.files.types.place ∧ l ≠ q.files.bindings.place) → u.fileAt l = t.fileAt l

theorem Spares.refl (t : FileTree) (q : Request) (ok : Bool) : Spares t q ok t :=
  ⟨fun _ hl => hl, fun _ _ _ => rfl⟩

theorem writeBoth_spares (law : chance.Lawful) {result : Except Cause Unit}
    (h : writeBoth chance t q.files man r q.run q.variant = (u, result)) :
    Spares t q result.isOk u := by
  cases result with
  | ok =>
    obtain ⟨hdirectories, hother⟩ := writeBoth_lookup law h
    refine ⟨hdirectories.keeps, fun l _ hne => fileAt_congr (hother l (fun hl => ?_) fun hl => ?_)⟩
    · exact (hne rfl).1 (place_of_locate hl).symm
    · exact (hne rfl).2 (place_of_locate hl).symm
  | error c =>
    rcases writeBoth_error law h with ⟨-, types, hstage⟩ | hl
    · obtain ⟨rfl, -, -, m, hm, hnone, hv⟩ := stage_ok law hstage
      obtain ⟨-, hending⟩ := (law t q.files.types ".tmp").locate (by decide) hm
      have hsame : SameDirectories t u := .of_update (by simp [hnone]) (by simp) hv
      refine ⟨hsame.keeps, fun l hl _ => fileAt_congr ?_⟩
      rw [hv, Function.update_of_ne]
      rintro rfl
      exact hl hending
    · exact ⟨fun l hdir => hl ▸ hdir, fun l _ _ => fileAt_congr (congrFun hl l)⟩

theorem persist_spares (law : chance.Lawful) (t : FileTree) (q : Request) :
    Spares t q (persist chance t q).2.result.isOk (persist chance t q).1 := by
  cases hman : q.manifest with
  | none =>
    simp only [persist, hman]
    exact .refl t q _
  | some man =>
    cases hreg : q.registry with
    | none =>
      simp only [persist, hman, hreg]
      exact .refl t q _
    | some r =>
      cases hd : t.makeDirectories q.directory with
      | error c =>
        simp only [persist, hman, hreg, hd]
        exact .refl t q _
      | ok t₁ =>
        rcases hw : writeBoth chance t₁ q.files man r q.run q.variant with ⟨u, result⟩
        have hspares := writeBoth_spares law hw
        have hok : persist chance t q = (u, (persist chance t q).2) ∧
            (persist chance t q).2.result.isOk = result.isOk := by
          cases result with
          | error c => rw [persist_of_writeBoth_error hman hreg hd hw]; exact ⟨rfl, rfl⟩
          | ok => rw [persist_of_writeBoth_ok hman hreg hd hw]; exact ⟨rfl, rfl⟩
        rw [hok.2, hok.1]
        refine ⟨fun l hl => hspares.keeps l ((makeDirectories_grows hd).keeps l hl),
          fun l hl hne => ?_⟩
        rw [← (makeDirectories_inv hd).2]
        exact hspares.file l hl hne

/-- The two files of a run are as they were. -/
structure SameFiles (directory : Path) (run : String) (t u : FileTree) : Prop where
  /-- The list of generated types. -/
  types : Unchanged (typesPath directory run) t u
  /-- The binding metadata. -/
  bindings : Unchanged (bindingsPath directory run) t u

theorem SameFiles.refl (directory : Path) (run : String) (t : FileTree) :
    SameFiles directory run t t := ⟨.refl _ t, .refl _ t⟩

theorem SameFiles.trans (h : SameFiles directory run t u) (h' : SameFiles directory run u v) :
    SameFiles directory run t v :=
  ⟨h.types.trans h'.types, h.bindings.trans h'.bindings⟩

/-- The two files of a run hold what was requested. -/
structure Holds (directory : Path) (run : String) (u : FileTree) (q : Request) : Prop where
  /-- The list of generated types. -/
  types : ∃ man, q.manifest = some man ∧
    u.read (typesPath directory run) = .ok (.text man.toLines)
  /-- The binding metadata. -/
  bindings : ∃ r, q.registry = some r ∧
    u.read (bindingsPath directory run) = .ok (.text (bindingsText r run q.variant))

theorem Holds.of_sameFiles (h : Holds directory run t q) (hu : SameFiles directory run t u) :
    Holds directory run u q := by
  obtain ⟨man, hman, htypes⟩ := h.types
  obtain ⟨r, hr, hbindings⟩ := h.bindings
  exact ⟨⟨man, hman, hu.types.read htypes⟩, ⟨r, hr, hu.bindings.read hbindings⟩⟩

namespace Call.Into

variable {c : Call} (hc : c.Into directory)

include hc

/-- A call leaves the files of a run as they are if it is for another run or fails. -/
theorem sameFiles (hrun : IsRun run)
    (h : (c.perform t).2.result.isOk = true → c.request.run ≠ run) :
    SameFiles directory run t (c.perform t).1 := by
  have hspares := persist_spares hc.lawful t c.request
  have hunchanged : ∀ suffix ∈ suffixes,
      Unchanged (directory.child (run ++ suffix)) t (c.perform t).1 := by
    intro suffix hs
    refine ⟨hspares.file _ (place_not_staged hrun hs) fun hok => ?_,
      fun l hl => hspares.keeps.locate hl⟩
    have hne : ∀ suffix' ∈ suffixes, (directory.child (run ++ suffix)).place ≠
        (directory.child (c.request.run ++ suffix')).place :=
      fun suffix' hs' heq => h hok (place_inj hrun hc.run hs hs' heq).symm
    simp only [Request.files, typesPath, bindingsPath, hc.directory]
    exact ⟨hne typesSuffix (by simp [suffixes]), hne bindingsSuffix (by simp [suffixes])⟩
  constructor
  · exact hunchanged typesSuffix (by simp [suffixes])
  · exact hunchanged bindingsSuffix (by simp [suffixes])

/-- A call that succeeds writes both files. -/
theorem holds (h : (c.perform t).2.result.isOk = true) :
    Holds directory c.request.run (c.perform t).1 c.request := by
  cases hf : (c.perform t).2.result with
  | error e =>
    rw [hf] at h
    cases h
  | ok f =>
    rw [perform] at hf ⊢
    cases hman : c.request.manifest with
    | none => simp [persist, hman, Logged.lift] at hf
    | some man =>
      cases hreg : c.request.registry with
      | none => simp [persist, hman, hreg, Logged.lift] at hf
      | some r =>
        obtain ⟨-, htypes, hbindings, -⟩ := persist_written hman hreg hc.lawful hf
        simp only [Request.files, hc.directory] at htypes hbindings
        exact ⟨⟨man, hman, htypes⟩, ⟨r, hreg, hbindings⟩⟩

end Call.Into

/-! ### Histories -/

/-- What became of the files of a run, for the last request that was met. -/
def Outcome (directory : Path) (run : String) (t u : FileTree) : Option Request → Prop
  | none => SameFiles directory run t u
  | some q => q.run = run ∧ Holds directory run u q

/-- What a call comes to, if it is known what became of the files after it. -/
theorem Outcome.step {c : Call} (hc : c.Into directory) (hrun : IsRun run) {last : Option Request}
    (h : Outcome directory run (c.perform t).1 u last) :
    Outcome directory run t u (last.or (if (c.perform t).2.result.isOk ∧ c.request.run = run then
      some c.request else none)) := by
  cases last with
  | some q => exact h
  | none =>
    split_ifs with hown
    · obtain ⟨hok, rfl⟩ := hown
      exact ⟨rfl, (hc.holds hok).of_sameFiles h⟩
    · exact (hc.sameFiles hrun fun hok heq => hown ⟨hok, heq⟩).trans h

theorem lastFor_cons (q : Request) (requests : List Request) :
    lastFor run (q :: requests) =
      (lastFor run requests).or (if q.run = run then some q else none) := by
  by_cases hq : q.run = run
  · rw [if_pos hq, lastFor, lastFor, List.filter_cons_of_pos (by simpa using hq),
      List.getLast?_cons]
    cases (requests.filter (·.run == run)).getLast? <;> rfl
  · rw [if_neg hq, lastFor, lastFor, List.filter_cons_of_neg (by simpa using hq), Option.or_none]

theorem after_cons (t : FileTree) (c : Call) (calls : List Call) :
    after t (c :: calls) = after (c.perform t).1 calls := rfl

theorem after_concat (t : FileTree) (calls : List Call) (c : Call) :
    after t (calls ++ [c]) = (c.perform (after t calls)).1 := by
  simp [after]

theorem outcome_after (hrun : IsRun run) {calls : List Call}
    (hcalls : ∀ c ∈ calls, c.Into directory) (t : FileTree) :
    Outcome directory run t (after t calls) (lastFor run (succeeded t calls)) := by
  -- from the first call on: the calls after it start from another tree
  induction calls generalizing t with
  | nil => exact .refl directory run t
  | cons c calls ih =>
    have hc := hcalls c List.mem_cons_self
    have hrest := ih (fun c hc => hcalls c (List.mem_cons_of_mem _ hc)) (c.perform t).1
    have hstep := hrest.step hc hrun
    rw [succeeded, after_cons]
    cases hok : (c.perform t).2.result.isOk with
    | true =>
      rw [if_pos rfl, lastFor_cons]
      simpa only [hok, true_and] using hstep
    | false =>
      rw [if_neg (by decide)]
      simpa [hok] using hstep

/-- **The last request that was met wins.**  However calls into a directory follow each other, for
whatever runs, and whichever of them fail: in the end, the two files of a run are those of the last
call for it that succeeded, or both are as they were at first; and at no time does a call for
another run change them. -/
theorem persist_last_wins (directory : Path) (calls : List Call)
    (hcalls : ∀ c ∈ calls, c.Into directory) (t : FileTree) (run : String) (hrun : IsRun run) :
    Outcome directory run t (after t calls) (lastFor run (succeeded t calls)) ∧
    ∀ front c back, calls = front ++ c :: back → c.request.run ≠ run →
      SameFiles directory run (after t front) (after t (front ++ [c])) := by
  refine ⟨outcome_after hrun hcalls t, fun front c back heq hne => ?_⟩
  rw [after_concat]
  exact (hcalls c (by simp [heq])).sameFiles hrun fun _ => hne

/-- A call for a run that cannot move the second file, one that succeeds, and one that cannot write,
and among them calls for runs whose names are those of its files. -/
def mixedCalls : List Call :=
  [⟨refusing (.move 1), request "7" none⟩, ⟨.none, request "7.types" none⟩,
    ⟨.none, request "7" (some "modern")⟩, ⟨.none, request "7.bindings.json" none⟩,
    ⟨refusing (.write 0), request "7" none⟩]
where
  /-- Access is denied at one point. -/
  refusing (point : Point) : Chance :=
    { refuses := fun p => if p = point then some .denied else none }
  /-- A request with little to write. -/
  request (run : String) (variant : Option String) : Request :=
    ⟨some {}, some .empty, ⟨"", ["out"]⟩, run, variant⟩

theorem persist_last_wins_mixed :
    let t : FileTree := ⟨[(["out"], .directory), (["out", "7.types"], .file (.text "old"))]⟩
    (∀ c ∈ mixedCalls, c.Into ⟨"", ["out"]⟩) ∧ IsRun "7" ∧ IsRun "8" ∧
      (∃ q, q.variant = some "modern" ∧ Holds ⟨"", ["out"]⟩ "7" (after t mixedCalls) q) ∧
      SameFiles ⟨"", ["out"]⟩ "8" t (after t mixedCalls) := by
  intro t
  have hcalls : ∀ c ∈ mixedCalls, c.Into ⟨"", ["out"]⟩ := by
    simp only [mixedCalls, List.forall_mem_cons, List.not_mem_nil, false_implies, implies_true,
      and_true]
    exact ⟨⟨.of_beside rfl, rfl, by decide⟩, ⟨.of_beside rfl, rfl, by decide⟩,
      ⟨.of_beside rfl, rfl, by decide⟩, ⟨.of_beside rfl, rfl, by decide⟩,
      ⟨.of_beside rfl, rfl, by decide⟩⟩
  have hlast : (lastFor "7" (succeeded t mixedCalls)).map (·.variant) = some (some "modern") ∧
      (lastFor "8" (succeeded t mixedCalls)).isNone = true := by decide +kernel
  obtain ⟨q, hq, hvariant⟩ := Option.map_eq_some_iff.1 hlast.1
  obtain ⟨hseven, -⟩ := persist_last_wins _ mixedCalls hcalls t "7" (by decide)
  obtain ⟨height, -⟩ := persist_last_wins _ mixedCalls hcalls t "8" (by decide)
  rw [hq] at hseven
  rw [Option.isNone_iff_eq_none.1 hlast.2] at height
  exact ⟨hcalls, by decide, by decide, ⟨q, hvariant, hseven.2⟩, height⟩

end Metadata

end SoapStubs
