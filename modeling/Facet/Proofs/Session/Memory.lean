import Facet.Proofs.Invocation.Interception
import Facet.Proofs.Session.Account

namespace Facet

variable {c : Capability}

namespace Invocation

def callOn? (i : Invocation) (c : Capability) : Option Call :=
  match i.resolve c with
  | .error _ => none
  | .ok ⟨m, args⟩ => some (m.asCall args)

theorem call?_eq (i : Invocation) (c : Capability) : i.call? c = (i.callOn? c).map Call.outcome := by
  simp only [call?, callOn?]
  cases i.resolve c <;> rfl

end Invocation

namespace World

theorem received_foldl {w : World} {ds : List Deed}
    (hds : ∀ d ∈ ds, ∀ id x, d = .called id x → id < w.recorders.length) (id : Nat) :
    (ds.foldl after w).received id =
      ((ds.filterMap Deed.call?).reverse.lookup id).or (w.received id) := by
  induction ds generalizing w with
  | nil => rfl
  | cons d ds ih =>
    obtain ⟨hd, hrest⟩ := List.forall_mem_cons.1 hds
    have hlater : ∀ e ∈ ds, ∀ j x, e = .called j x → j < (w.after d).recorders.length := by
      intro e he j x heq
      rw [length_recorders_after]
      exact Nat.lt_add_right _ (hrest e he j x heq)
    rw [List.foldl_cons, ih hlater, received_after]
    cases d with
    | called j x =>
      have hj := hd j x rfl
      by_cases hid : id = j
      · subst hid
        simp [Deed.call?, List.lookup_append, hj]
      · simp [Deed.call?, List.lookup_append, hid, List.lookup_cons,
          beq_eq_false_iff_ne.2 hid]
    | started | created | replayFailed | finished | emptied | configured => rfl

end World

namespace Session

variable {α β : Type}

def addressed (s : Session) (subject : Subject c) (xs : List α) : List (Nat × α) :=
  match s.target? subject with
  | some (_, some id) => xs.map (id, ·)
  | _ => []

/-- The calls that stand-ins receive in a step, each with the stand-in that receives it. -/
def deliveries (s : Session) : Step → List (Nat × Call)
  | .call (c := c) name m args => s.addressed (c := c) (.standIn name) [m.asCall args]
  | .direct subject m args => s.addressed subject [m.asCall args]
  | .intercept c name member arguments =>
    s.addressed (c := c) (.standIn name) [⟨member, arguments⟩]
  | .replay (c := c) _ key subject =>
    s.addressed subject ((s.invocations.find? key).bind (·.callOn? c)).toList
  | .evaluate (c := c) expression subject _ =>
    s.addressed subject ((s.replays expression subject).filterMap (·.invocation.callOn? c))
  | _ => []

def delivered (s : Session) : List Step → List (Nat × Call)
  | [] => []
  | step :: rest => s.deliveries step ++ (s.run step).2.delivered rest

def lastCall? (s : Session) (steps : List Step) (id : Nat) : Option Call :=
  (s.delivered steps).reverse.lookup id

theorem addressed_map (s : Session) (subject : Subject c) (f : α → β) (xs : List α) :
    s.addressed subject (xs.map f) = (s.addressed subject xs).map fun d => (d.1, f d.2) := by
  simp only [addressed]
  split
  · simp
  · rfl

theorem calls_eq (s : Session) (step : Step) :
    s.calls step = (s.deliveries step).map fun d => (d.1, d.2.outcome) := by
  cases step with
  | call name m args | direct subject m args => exact s.addressed_map _ Call.outcome [m.asCall args]
  | intercept c name member arguments => exact s.addressed_map _ Call.outcome [⟨member, arguments⟩]
  | replay u key subject =>
    rw [deliveries, ← addressed_map, calls]
    cases s.invocations.find? key with
    | none => rfl
    | some i =>
      rw [Option.bind_some, Option.bind_some, Invocation.call?_eq, Option.toList_map]
      rfl
  | evaluate expression subject keepAs =>
    rw [deliveries, ← addressed_map, List.map_filterMap]
    simp only [calls, Invocation.call?_eq]
    rfl
  | _ => rfl

theorem lookup_map_snd (f : α → β) (xs : List (Nat × α)) (id : Nat) :
    (xs.map fun x => (x.1, f x.2)).lookup id = (xs.lookup id).map f := by
  induction xs with
  | nil => rfl
  | cons x xs ih =>
    obtain ⟨j, a⟩ := x
    simp only [List.map_cons, List.lookup_cons, ih]
    cases id == j <;> rfl

variable {s : Session}

theorem received_runAll (hs : s.WellNamed) (steps : List Step) (id : Nat) :
    (s.runAll steps).2.world.received id =
      ((s.lastCall? steps id).map Call.outcome).or (s.world.received id) := by
  induction steps generalizing s with
  | nil => rfl
  | cons step rest ih =>
    have hdeeds := lt_of_called (P := fun _ _ => True) hs (fun _ _ => trivial)
      (show step.Respects _ by cases step <;> trivial)
    have hstep : (s.run step).2.world.received id =
        (((s.deliveries step).reverse.lookup id).map Call.outcome).or (s.world.received id) := by
      rw [world_run, World.received_foldl hdeeds, call?_deeds, calls_eq, ← List.map_reverse,
        lookup_map_snd]
    rw [show (s.runAll (step :: rest)).2 = ((s.run step).2.runAll rest).2 from rfl,
      ih (hs.run step), hstep, lastCall?, lastCall?, delivered, List.reverse_append,
      List.lookup_append, Option.map_or, Option.or_assoc]

theorem run_captured {name : String} {id : Nat} (hs : s.WellNamed)
    (hname : (s.standIns c).find? name = some id) :
    s.run (.captured c name none) =
      (match s.world.received id with
        | none => .captureError (.nothingCaptured c)
        | some (.error e) => .captureError e
        | some (.ok i) => .invocation i, s) := by
  obtain ⟨r, hr, rfl⟩ := World.owns_iff.1 (hs c name id hname)
  simp only [run, hname, Option.bind_some, hr, World.received, Recorder.invocation]
  cases r.captured with
  | none => rfl
  | some x => cases x <;> rfl

end Session

def Reply.ofRemembered : Except CaptureError Invocation → Reply
  | .error e => .captureError e
  | .ok i => .invocation i

namespace Session

/-- After every run a stand-in answers for the last call that it received itself, and for nothing else; a
method call is never refused for the number of its arguments. -/
theorem standIn_remembers_last_call {steps : List Step} {name : String} {id : Nat}
    (hname : ((initial.runAll steps).2.standIns c).find? name = some id) :
    let s := (initial.runAll steps).2
    let step : Step := .captured c name none
    (initial.lastCall? steps id = none → s.run step = (.captureError (.nothingCaptured c), s)) ∧
    ∀ k, initial.lastCall? steps id = some k →
      ∃ o, (∀ o', k.Remembered o' ↔ o' = o) ∧ s.run step = (.ofRemembered o, s) ∧
        ∀ (d : Capability) (m : Method d) (args : Args m.params), k = m.asCall args →
          ∀ member supplied, o ≠ .error (.arityMismatch member supplied) := by
  intro s step
  have hs : s.WellNamed := wellNamed_initial.runAll steps
  have hreceived : s.world.received id = (initial.lastCall? steps id).map Call.outcome := by
    exact (received_runAll wellNamed_initial steps id).trans Option.or_none
  have hrun := run_captured hs hname
  constructor
  · intro hnone
    rw [hrun, hreceived, hnone]
    rfl
  · intro k hk
    refine ⟨k.outcome, fun o => Call.remembered_iff, ?_, ?_⟩
    · rw [hrun, hreceived, hk]
      cases h : k.outcome <;> simp [Reply.ofRemembered, h]
    · rintro d m args rfl
      exact Call.outcome_asCall_ne_arityMismatch m args

theorem standIn_remembers_last_call_interleaved :
    let member : Member := ⟨.kit, "mixed", ["&str", "&str", "&str"], .string⟩
    let steps : List Step :=
      [.create .person "p", .start .kit "k", .call "p" Method.getAge (),
        .call "k" Method.nothing ((), ()),
        .intercept .person "p" member [.ok ⟨.string "x", "\"x\""⟩, .error (.stated "no")],
        .call "k" Method.tags ([], ()), .reset]
    let s := (initial.runAll steps).2
    (s.standIns .person).find? "p" = some 0 ∧
      s.run (.captured .person "p" none) = (.captureError (.capture member 1 (.stated "no")), s) := by
  intro member steps s
  have hname : (s.standIns .person).find? "p" = some 0 := rfl
  refine ⟨hname, ?_⟩
  obtain ⟨o, ho, hrun, -⟩ := (standIn_remembers_last_call hname).2
    ⟨member, [.ok ⟨.string "x", "\"x\""⟩, .error (.stated "no")]⟩ rfl
  have hrefused : o = .error (.capture member 1 (.stated "no")) := by
    refine ((ho _).1 (.refused ⟨rfl, ?_⟩)).symm
    intro j hj
    obtain rfl : j = 0 := by omega
    exact ⟨_, rfl⟩
  rw [hrun, hrefused]
  rfl

end Session

end Facet
