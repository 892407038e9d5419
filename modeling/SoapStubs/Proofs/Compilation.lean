import SoapStubs.Proofs.Course

/-!
# Compilers that keep to their directory

What a run makes of a compiler of which is known only that it writes nowhere but in the directory
it is given, however its calls end: they may also fail, and a failure to compile is noted like a
rejection.

* `Compiler.Confined` is such a compiler;
* `Generator.compileOn_returns` and `Generator.compileOn_fails` are what is known of a variant that
  compiled and of one that did not;
* `Generator.compileEach_append`: variants are compiled one after another;
* `Generator.compileEach_view`: the call for a variant that compiled, with what happens before and
  after it to the files of others (`Generator.CallAccepted`).
-/

namespace SoapStubs

open FileTree

/-! ### Sessions in which little changes -/

/-- What changes in the session are files in `X` and directories in `ways`; the common result is the
same. -/
structure Session.Within (ways X : Set Location) (s s' : Session) : Prop where
  /-- Nothing else is changed. -/
  changes : Changes ways X s.files s'.files
  /-- There is still one entry for each location. -/
  distinct : s.files.Distinct → s'.files.Distinct
  /-- The common result is the same. -/
  common : s'.common = s.common

namespace Session.Within

variable {ways ways' X Y : Set Location} {s s' s'' : Session}

theorem refl (ways X : Set Location) (s : Session) : Within ways X s s := ⟨.refl _ _ _, id, rfl⟩

theorem trans (h : Within ways X s s') (h' : Within ways X s' s'') : Within ways X s s'' :=
  ⟨h.changes.trans h'.changes, h'.distinct ∘ h.distinct, h'.common.trans h.common⟩

theorem mono (h : Within ways X s s') (hways : ∀ l ∈ ways, l ∉ Y → l ∈ ways') (hX : X ⊆ Y) :
    Within ways' Y s s' :=
  ⟨h.changes.mono hways hX, h.distinct, h.common⟩

end Session.Within

/-- However a call of the compiler ends, it changes nothing but what is at and below the directory
that it is given, apart from making the way there. -/
def Compiler.Confined (k : Compiler) : Prop :=
  ∀ q s out s', (k.compile q).run.run s = (out, s') →
    Session.Within q.outputDir.way { l | q.outputDir.place <+: l } s s'

namespace Generator

variable {g : Generator} {s s' left : Session} {c : CommonResult} {r : VariantResult}
  {rs : List VariantResult} {k : CompiledVariant} {v : Variant} {done done' : Compilation}

/-! ### Compiling a variant -/

def calling (g : Generator) (c : CommonResult) (r : VariantResult) (s : Session) : Session :=
  match s.context.enter "compile"
      [("run_id", .text c.runId), ("variant", .text r.variant.name)] with
  | .ok inside =>
    { Run.begun s "compile" inside with compilations := s.compilations ++ [g.request c r] }
  | .error _ => s

theorem exists_calling (g : Generator) (c : CommonResult) (r : VariantResult) (s : Session) :
    ∃ inside, s.context.enter "compile"
        [("run_id", .text c.runId), ("variant", .text r.variant.name)] = .ok inside ∧
      g.calling c r s = { Run.begun s "compile" inside with
        compilations := (Run.begun s "compile" inside).compilations ++ [g.request c r] } :=
  ⟨_, rfl, rfl⟩

/-- The compiler accepts a variant: its call leaves a session, in which the metadata is stored. -/
structure CallAccepted (g : Generator) (c : CommonResult) (r : VariantResult)
    (s left s' : Session) : Prop where
  /-- The call returns and accepts it. -/
  call : ∃ answer, (g.compiler.compile (g.request c r)).Returns (g.calling c r s) answer left ∧
    answer.success = true
  stored : ∃ f, (Metadata.persist .none left.files (g.storing c r)).2.result = .ok f
  /-- Nothing else is done to the files. -/
  files : s'.files = (Metadata.persist .none left.files (g.storing c r)).1
  /-- The common result is as the call leaves it. -/
  common : s'.common = left.common

theorem call_within (hk : g.compiler.Confined) {out : Except Failure Report}
    (h : (g.compiler.compile (g.request c r)).run.run (g.calling c r s) = (out, left)) :
    s.Within g.settings.compileDir.way (g.classes r.variant) left := by
  obtain ⟨hchanges, hdistinct, hcommon⟩ := hk _ _ _ _ h
  have hwithin : s.Within (g.classesDir r.variant).way (g.classes r.variant) left :=
    ⟨hchanges, hdistinct, hcommon⟩
  exact hwithin.mono (fun l hl hnot => mem_way_classesDir hl hnot) (Set.Subset.refl _)

/-- A variant that compiled was accepted. -/
theorem compileOn_returns (h : (g.compileOn r c).Returns s k s') :
    k = g.compiledOf c r ∧ ∃ left, g.CallAccepted c r s left s' := by
  obtain ⟨inside, henter, hcalling⟩ := g.exists_calling c r s
  obtain ⟨f, s₁, hphase, h⟩ := Run.returns_bind.1 h
  obtain ⟨rfl, rfl⟩ := Run.returns_pure.1 h
  obtain ⟨s₂, hbody, rfl⟩ := Run.phase_returns_inv henter hphase
  obtain ⟨⟨⟩, s₃, hnoted, h⟩ := Run.returns_bind.1 hbody
  cases hnoted
  obtain ⟨answer, left, hcall, -⟩ := Run.returns_bind.1 h
  cases hsuccess : answer.success with
  | false =>
    obtain ⟨e, -, hfails⟩ := compileBody_rejected hcall hsuccess
    exact absurd hfails hbody.not_fails
  | true =>
    obtain ⟨hresult, hs₂⟩ := Prod.mk.inj ((compileBody_run hcall hsuccess).symm.trans hbody)
    obtain ⟨rfl, -⟩ := Metadata.persist_ok_inv rfl rfl hresult
    obtain ⟨hcommon, hfiles⟩ := Session.common_foldl_log
      { left with files := (Metadata.persist .none left.files (g.storing c r)).1 }
      (Metadata.persist .none left.files (g.storing c r)).2.events
    rw [hs₂] at hcommon hfiles
    refine ⟨rfl, left, ⟨answer, ?_, hsuccess⟩, ⟨_, hresult⟩, hfiles, hcommon⟩
    rw [hcalling]
    exact hcall

/-- The body of the phase fails after a call that failed or rejected the variant, or because the
metadata cannot be stored. -/
theorem compileBody_fails {e : Failure}
    (h : (g.compileBody r c (g.classesDir r.variant)).Fails s e s') :
    (∃ out, (g.compiler.compile (g.request c r)).run.run
      { s with compilations := s.compilations ++ [g.request c r] } = (out, s')) ∨
    ∃ t, (Metadata.persist .none t (g.storing c r)).2.result = .error e := by
  rcases Run.returns_or_fails (g.compiler.compile (g.request c r))
      { s with compilations := s.compilations ++ [g.request c r] } with
    ⟨answer, left, hcall⟩ | ⟨e', left, hcall⟩
  · cases hsuccess : answer.success with
    | false =>
      obtain ⟨e', -, hfails⟩ := compileBody_rejected hcall hsuccess
      obtain ⟨rfl, rfl⟩ := h.unique hfails
      exact .inl ⟨_, hcall⟩
    | true =>
      obtain ⟨hresult, -⟩ := Prod.mk.inj ((compileBody_run hcall hsuccess).symm.trans h)
      exact .inr ⟨left.files, hresult⟩
  · have hfails : (g.compileBody r c (g.classesDir r.variant)).Fails s e' left :=
      Run.fails_bind.2 (.inr ⟨(), _, rfl, Run.fails_bind.2 (.inl hcall)⟩)
    obtain ⟨rfl, rfl⟩ := h.unique hfails
    exact .inl ⟨_, hcall⟩

/-- A variant that did not compile has changed its classes at most. -/
theorem compileOn_fails (hk : g.compiler.Confined) {e : Error}
    (h : (g.compileOn r c).Fails s (.error e) s') (hkind : e.kind = .compilation) :
    s.Within g.settings.compileDir.way (g.classes r.variant) s' := by
  obtain ⟨inside, henter, hcalling⟩ := g.exists_calling c r s
  rcases Run.fails_bind.1 h with hphase | ⟨f, s₁, -, h⟩
  swap
  · exact absurd h Run.not_fails_pure
  obtain ⟨e₂, s₂, hbody, he, rfl⟩ := Run.phase_fails_inv henter hphase
  rcases compileBody_fails hbody with ⟨out, hout⟩ | ⟨t, hresult⟩
  · rw [← hcalling] at hout
    obtain ⟨hchanges, hdistinct, hcommon⟩ := call_within hk hout
    exact ⟨hchanges, hdistinct, hcommon⟩
  · cases e₂ with
    | bare cause => cases he
    | error e₂ =>
      cases he
      have hkind' := (Metadata.persist_undone rfl rfl
        (Metadata.Chance.Lawful.of_beside rfl) hresult).1
      exact absurd (hkind'.symm.trans hkind) nofun

/-! ### Compiling one variant after another -/

theorem compileEach_append (g : Generator) (c : CommonResult) (done : Compilation)
    (before rest : List VariantResult) :
    g.compileEach c done (before ++ rest) =
      g.compileEach c done before >>= fun done' => g.compileEach c done' rest := by
  induction before generalizing done with
  | nil => simp only [List.nil_append, compileEach, pure_bind]
  | cons r before ih =>
    simp only [List.cons_append, compileEach, bind_assoc]
    congr 1
    funext out
    cases out with
    | ok k => exact ih _
    | error f =>
      cases f with
      | bare cause => rfl
      | error e =>
        dsimp only
        split
        · simp only [bind_assoc, ih]
        · rfl

/-- **One step**: a variant is accepted, or it is noted that it did not compile. -/
theorem compileEach_one (hk : g.compiler.Confined)
    (h : (g.compileEach c done [r]).Returns s done' s') :
    (∃ left, done'.compiled = done.compiled ++ [g.compiledOf c r] ∧ g.CallAccepted c r s left s') ∨
      done'.compiled = done.compiled ∧
        s.Within g.settings.compileDir.way (g.classes r.variant) s' := by
  obtain ⟨out, s₁, hout, h⟩ := Run.returns_bind.1 h
  have hout := Run.returns_outcome.1 hout
  cases out with
  | ok k =>
    obtain ⟨rfl, left, haccepted⟩ := compileOn_returns hout
    obtain ⟨rfl, rfl⟩ := Run.returns_pure.1 h
    exact .inl ⟨left, rfl, haccepted⟩
  | error f =>
    cases f with
    | bare cause => cases h
    | error e =>
      dsimp only at h
      -- only a failure to compile is noted, any other ends the run
      split at h
      · rename_i hkind
        obtain ⟨⟨⟩, s₂, hnote, h⟩ := Run.returns_bind.1 h
        obtain ⟨rfl, rfl⟩ := Run.returns_pure.1 h
        cases hnote
        obtain ⟨hchanges, hdistinct, hcommon⟩ := compileOn_fails hk hout hkind
        exact .inr ⟨rfl, hchanges, hdistinct, hcommon⟩
      · cases h

def classesAmong (g : Generator) (rs : List VariantResult) : Set Location :=
  { l | ∃ r ∈ rs, l ∈ g.classes r.variant }

theorem classesAmong_subset (h : v ∉ rs.map (·.variant)) :
    g.classesAmong rs ⊆ g.otherClasses v := by
  rintro l ⟨r, hr, hl⟩
  exact ⟨r.variant, fun heq => h (heq ▸ List.mem_map_of_mem hr), hl⟩

section

variable (hrun : c.runId = g.settings.runId) (hslash : '/' ∉ g.settings.runId.toList)
  (hk : g.compiler.Confined)

include hrun hslash hk

theorem CallAccepted.within (h : g.CallAccepted c r s left s') :
    s.Within g.settings.compileDir.way (g.classes r.variant) s' := by
  obtain ⟨answer, hcall, -⟩ := h.call
  obtain ⟨f, hstored⟩ := h.stored
  refine (call_within hk hcall).trans ⟨?_, fun hd => ?_, h.common⟩
  · rw [h.files]
    exact (changes_stored hrun hstored).1.mono (fun _ hl hnot => mem_way_classesDir hl hnot)
      (metadata_subset hslash)
  · rw [h.files]
    exact Metadata.distinct_persist hd

/-- **What compiling variants comes to**: classes of some of them are added to those that are
compiled, and no others' classes change. -/
theorem compileEach_inv (h : (g.compileEach c done rs).Returns s done' s') :
    (∃ ks, done'.compiled = done.compiled ++ ks ∧
      (ks.map (·.variant)).Sublist (rs.map (·.variant)) ∧
      ∀ k ∈ ks, k.outputDir = g.classesDir k.variant) ∧
    s.Within g.settings.compileDir.way (g.classesAmong rs) s' := by
  induction rs generalizing done s with
  | nil =>
    obtain ⟨rfl, rfl⟩ := Run.returns_pure.1 h
    exact ⟨⟨[], by simp, .slnil, nofun⟩, .refl _ _ _⟩
  | cons r rest ih =>
    -- the first variant is a list of its own, so that `compileEach_one` is about it
    rw [← List.singleton_append, compileEach_append] at h
    obtain ⟨done₁, s₁, hone, hrest⟩ := Run.returns_bind.1 h
    obtain ⟨⟨ks, hks, hsublist, hdirs⟩, hwithin⟩ := ih hrest
    have hone' := compileEach_one hk hone
    have hfirst : s.Within g.settings.compileDir.way (g.classes r.variant) s₁ := by
      rcases hone' with ⟨left, -, haccepted⟩ | ⟨-, hfirst⟩
      · exact haccepted.within hrun hslash hk
      · exact hfirst
    constructor
    · rcases hone' with ⟨left, hcompiled, -⟩ | ⟨hcompiled, -⟩
      · refine ⟨g.compiledOf c r :: ks, by simp [hks, hcompiled], hsublist.cons_cons _, ?_⟩
        exact List.forall_mem_cons.2 ⟨rfl, hdirs⟩
      · exact ⟨ks, by rw [hks, hcompiled], hsublist.cons _, hdirs⟩
    · refine (hfirst.mono (fun _ hl _ => hl) ?_).trans (hwithin.mono (fun _ hl _ => hl) ?_)
      · exact fun l hl => ⟨r, List.mem_cons_self, hl⟩
      · exact fun l ⟨r', hr', hl⟩ => ⟨r', List.mem_cons_of_mem r hr', hl⟩

/-- **The call for a variant that compiled**: before it and after it, only the classes of others
change. -/
theorem compileEach_view (hnodup : (rs.map (·.variant)).Nodup)
    (h : (g.compileEach c {} rs).Returns s done s') (hv : v ∈ done.compiled.map (·.variant)) :
    ∃ before r after done₁ s₁ left s₂, rs = before ++ r :: after ∧ r.variant = v ∧
      (g.compileEach c {} before).Returns s done₁ s₁ ∧ g.CallAccepted c r s₁ left s₂ ∧
      s.Within g.settings.compileDir.way (g.otherClasses v) s₁ ∧
      s₂.Within g.settings.compileDir.way (g.otherClasses v) s' := by
  obtain ⟨⟨ks, hks, hsublist, -⟩, -⟩ := compileEach_inv hrun hslash hk h
  obtain ⟨r, hr, rfl⟩ : ∃ r ∈ rs, r.variant = v := by
    rw [hks] at hv
    exact List.mem_map.1 (hsublist.subset hv)
  obtain ⟨before, after, rfl⟩ := List.append_of_mem hr
  rw [List.map_append, List.map_cons] at hnodup
  have hnot := (List.nodup_cons.1 (List.nodup_middle.1 hnodup)).1
  rw [List.mem_append, not_or] at hnot
  rw [← List.singleton_append, compileEach_append] at h
  obtain ⟨done₁, s₁, hbefore, h⟩ := Run.returns_bind.1 h
  rw [compileEach_append] at h
  obtain ⟨done₂, s₂, hone, hafter⟩ := Run.returns_bind.1 h
  obtain ⟨⟨ks₁, hks₁, hsublist₁, -⟩, hwithin₁⟩ := compileEach_inv hrun hslash hk hbefore
  obtain ⟨⟨ks₂, hks₂, hsublist₂, -⟩, hwithin₂⟩ := compileEach_inv hrun hslash hk hafter
  rcases compileEach_one hk hone with ⟨left, -, haccepted⟩ | ⟨hcompiled, -⟩
  · exact ⟨before, r, after, done₁, s₁, left, s₂, rfl, rfl, hbefore, haccepted,
      hwithin₁.mono (fun _ hl _ => hl) (classesAmong_subset hnot.1),
      hwithin₂.mono (fun _ hl _ => hl) (classesAmong_subset hnot.2)⟩
  · rw [hks₂, hcompiled, hks₁, List.map_append, List.map_append] at hv
    simp only [List.map_nil, List.nil_append, List.mem_append] at hv
    rcases hv with hv | hv
    · exact absurd (hsublist₁.subset hv) hnot.1
    · exact absurd (hsublist₂.subset hv) hnot.2

end

end Generator

end SoapStubs
