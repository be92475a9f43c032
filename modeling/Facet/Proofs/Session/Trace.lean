import Facet.Proofs.Session.Finish

namespace Facet

def Step.isFinish : Step → Bool
  | .finish .. => true
  | _ => false

def Reply.isFailure : Reply → Bool
  | .captureError _ | .panic _ => true
  | _ => false

namespace Session

structure Moment where
  step : Step
  report : Report
  after : Session

def Moment.isFailedFinish (m : Moment) : Bool := m.step.isFinish && m.report.reply.isFailure

def moment (s : Session) (step : Step) : Moment := ⟨step, (s.report step).1, (s.report step).2⟩

def trace (s : Session) : List Step → List Moment
  | [] => []
  | step :: rest => s.moment step :: (s.moment step).after.trace rest

/-- The steps of a run less the finishers that failed in it. -/
def withoutFailed (s : Session) (steps : List Step) : List Step :=
  ((s.trace steps).filter fun m => !m.isFailedFinish).map (·.step)

variable {s : Session} {step : Step}

theorem runAll_cons (s : Session) (step : Step) (rest : List Step) :
    s.runAll (step :: rest) =
      ((s.moment step).report :: ((s.moment step).after.runAll rest).1,
        ((s.moment step).after.runAll rest).2) := rfl

theorem fst_runAll (s : Session) (steps : List Step) :
    (s.runAll steps).1 = (s.trace steps).map (·.report) := by
  induction steps generalizing s with
  | nil => rfl
  | cons step rest ih => rw [runAll_cons, ih, trace, List.map_cons]

theorem after_of_isFailedFinish (h : (s.moment step).isFailedFinish) : (s.moment step).after = s := by
  cases step with
  | finish c flavor u inner panicking keeping =>
    cases houtcome : s.world.outcome c flavor u with
    | error e => exact congrArg Prod.snd (run_finish_of_error s c flavor inner panicking keeping houtcome)
    | ok i =>
      have hreply := fst_run_finish_of_ok s c flavor inner panicking keeping houtcome
      simp [moment, Moment.isFailedFinish, report, hreply, Reply.isFailure] at h
  | _ => simp [moment, Moment.isFailedFinish, Step.isFinish] at h

theorem withoutFailed_cons_of_failed (rest : List Step) (h : (s.moment step).isFailedFinish) :
    s.withoutFailed (step :: rest) = s.withoutFailed rest := by
  rw [withoutFailed, trace, after_of_isFailedFinish h, List.filter_cons_of_neg (by simp [h]),
    withoutFailed]

theorem withoutFailed_cons_of_kept (rest : List Step) (h : ¬ (s.moment step).isFailedFinish) :
    s.withoutFailed (step :: rest) = step :: (s.moment step).after.withoutFailed rest := by
  rw [withoutFailed, trace, List.filter_cons_of_pos (by simp [h]), List.map_cons, ← withoutFailed]
  rfl

theorem trace_withoutFailed (s : Session) (steps : List Step) :
    s.trace (s.withoutFailed steps) = (s.trace steps).filter fun m => !m.isFailedFinish := by
  induction steps generalizing s with
  | nil => rfl
  | cons step rest ih =>
    by_cases h : (s.moment step).isFailedFinish
    · -- The rest of the run starts from the session that the finisher found.
      rw [withoutFailed_cons_of_failed rest h, ih, trace, after_of_isFailedFinish h,
        List.filter_cons_of_neg (by simp [h])]
    · rw [withoutFailed_cons_of_kept rest h, trace, ih, trace, List.filter_cons_of_pos (by simp [h])]

theorem snd_runAll_withoutFailed (s : Session) (steps : List Step) :
    (s.runAll (s.withoutFailed steps)).2 = (s.runAll steps).2 := by
  induction steps generalizing s with
  | nil => rfl
  | cons step rest ih =>
    by_cases h : (s.moment step).isFailedFinish
    · rw [withoutFailed_cons_of_failed rest h, ih, runAll_cons, after_of_isFailedFinish h]
    · rw [withoutFailed_cons_of_kept rest h, runAll_cons, runAll_cons, ih]

/-- A run reports the same without the finishers that failed in it, and every step that is left leaves the
same session. A finisher fails alike in its two forms, and otherwise does no more than to empty the slot. -/
theorem failed_finish_leaves_no_trace (s : Session) :
    (∀ steps : List Step,
      s.trace (s.withoutFailed steps) = ((s.trace steps).filter fun m => !m.isFailedFinish) ∧
      s.runAll (s.withoutFailed steps) =
        (((s.trace steps).filter fun m => !m.isFailedFinish).map (·.report), (s.runAll steps).2)) ∧
    ∀ (c : Capability) (flavor : Flavor) (u : Ty) (inner : ValueMatcher u) (keeping : Keeping),
      (∃ e, s.run (.finish c flavor u inner false keeping) = (.captureError e, s) ∧
        s.run (.finish c flavor u inner true keeping) = (.panic (.message e.message), s)) ∨
      ∃ (r : Replaying c) (t : Session),
        s.run (.finish c flavor u inner false keeping) = (.matcher r, t) ∧
        s.run (.finish c flavor u inner true keeping) = (.matcher r, t) ∧ s.world.Finished t.world := by
  refine ⟨fun steps => ⟨trace_withoutFailed s steps, Prod.ext ?_ ?_⟩, ?_⟩
  · rw [fst_runAll, trace_withoutFailed]
  · exact snd_runAll_withoutFailed s steps
  · intro c flavor u inner keeping
    cases houtcome : s.world.outcome c flavor u with
    | error e =>
      exact .inl ⟨e, run_finish_of_error s c flavor inner false keeping houtcome,
        run_finish_of_error s c flavor inner true keeping houtcome⟩
    | ok i =>
      have hreply := fun panicking => fst_run_finish_of_ok s c flavor inner panicking keeping houtcome
      have hfinished := World.finished_of_outcome _ _ _ inner houtcome
      rw [← world_run_finish s c flavor inner false keeping] at hfinished
      exact .inr ⟨_, _, Prod.ext (hreply false) rfl,
        Prod.ext (hreply true) (snd_run_finish_panicking s c flavor inner keeping), hfinished⟩

end Session

end Facet
