import Facet.Proofs.Session.Account
import Facet.Proofs.Session.Trace

namespace Facet

namespace Event

def slotAfter (isSet : Bool) : Event → Bool
  | .slotSet _ => true
  | .slotCleared | .slotReset => false
  | _ => isSet

def start? : Event → Option Capability
  | .slotSet c => some c
  | _ => none

def capture? : Event → Option (Except CaptureError Invocation)
  | .captured _ i => some (.ok i)
  | .captureFailed _ e => some (.error e)
  | _ => none

def failure? : Event → Option (Invocation × ReplayError)
  | .replayFailed i e => some (i, e)
  | _ => none

end Event

def Deed.start? : Deed → Option Capability
  | .started c => some c
  | _ => none

def Step.start? : Step → Option Capability
  | .start c _ => some c
  | _ => none

/-- What a deed emits that makes the world `v` of `w`. A call is told by what the stand-in then holds. -/
inductive Emits (w v : World) : Deed → List Event → Prop
  | started {c : Capability} : Emits w v (.started c) [.slotSet c]
  | created {c : Capability} : Emits w v (.created c) []
  | captured {id : Nat} {c : Capability} {i : Invocation} :
    v.Owns id c → v.received id = some (.ok i) → Emits w v (.called id (.ok i)) [.captured c i]
  | captureFailed {id : Nat} {c : Capability} {e : CaptureError} :
    v.Owns id c → v.received id = some (.error e) →
    Emits w v (.called id (.error e)) [.captureFailed c e]
  | replayFailed {i : Invocation} {e : ReplayError} :
    Emits w v (.replayFailed i e) [.replayFailed i e]
  | cleared : w.isSet → w.activeConfig.resetSlotOnFinish → Emits w v .finished [.slotCleared]
  | kept : ¬ (w.isSet ∧ w.activeConfig.resetSlotOnFinish) → Emits w v .finished []
  | emptied : Emits w v .emptied [.slotReset]
  | activated {config : Config} :
    Emits w v (.configured (some config)) [.configActivated config]
  | deactivated : Emits w v (.configured none) []

inductive Narrated : World → List Deed → List Event → World → Prop
  | nil {w : World} : Narrated w [] [] w
  | cons {w v : World} {d : Deed} {ds : List Deed} {es rest : List Event} :
    Emits w (w.after d) d es → Narrated (w.after d) ds rest v →
    Narrated w (d :: ds) (es ++ rest) v

namespace World

variable {w : World} {d : Deed} {c : Capability} {id : Nat} {x : Except CaptureError Invocation}

theorem log_record (h : w.Owns id c) : (w.record id x).log = w.log ++ [.ofCapture c x] := by
  obtain ⟨r, hr, rfl⟩ := owns_iff.1 h
  simp [record, hr, emit]

theorem log_clearSlot (w : World) :
    w.clearSlot.log = w.log ++ if w.isSet then [.slotCleared] else [] := by
  cases hslot : w.slot <;> simp [clearSlot, isSet, hslot, emit]

theorem isSet_after (w : World) (d : Deed) :
    (w.after d).isSet = match d with
      | .started _ => true
      | .emptied => false
      | .finished => if w.activeConfig.resetSlotOnFinish then false else w.isSet
      | _ => w.isSet := by
  simp only [isSet, slot_after]
  cases d with
  | finished => cases w.activeConfig.resetSlotOnFinish <;> rfl
  | started | created | called | replayFailed | emptied | configured => rfl

theorem exists_emits {P : CallProperty} (hd : d.Respects P w) : ∃ es, Emits w (w.after d) d es := by
  cases d with
  | called id x =>
    obtain ⟨c, howns, -⟩ := hd
    have hreceived : (w.after (.called id x)).received id = some x := by
      simp [received_after, howns.lt]
    cases x with
    | ok i => exact ⟨_, .captured (howns.after _) hreceived⟩
    | error e => exact ⟨_, .captureFailed (howns.after _) hreceived⟩
  | finished =>
    by_cases h : w.isSet ∧ w.activeConfig.resetSlotOnFinish
    · exact ⟨_, .cleared h.1 h.2⟩
    · exact ⟨_, .kept h⟩
  | configured config =>
    cases config with
    | none => exact ⟨_, .deactivated⟩
    | some config => exact ⟨_, .activated⟩
  | started c => exact ⟨_, .started⟩
  | created c => exact ⟨_, .created⟩
  | replayFailed i e => exact ⟨_, .replayFailed⟩
  | emptied => exact ⟨_, .emptied⟩

end World

namespace Emits

variable {w : World} {d : Deed} {es : List Event}

theorem log (h : Emits w (w.after d) d es) : (w.after d).log = w.log ++ es := by
  cases h with
  | captured howns | captureFailed howns =>
    -- The owner of a recorder does not change, so the event names the owner that the deed found.
    exact World.log_record (((World.owns_after_iff ..).1 howns).resolve_right nofun)
  | cleared hset hreset =>
    simp [World.after, hreset, World.log_clearSlot, hset]
  | kept hnot =>
    simp only [World.after]
    split
    next hreset =>
      have hset : ¬ w.isSet := fun hset => hnot ⟨hset, hreset⟩
      simp [World.log_clearSlot, hset]
    next => exact (List.append_nil _).symm
  | started | replayFailed | emptied | activated => rfl
  | created | deactivated => exact (List.append_nil _).symm

theorem isSet (h : Emits w (w.after d) d es) : (w.after d).isSet = es.foldl Event.slotAfter w.isSet := by
  rw [World.isSet_after]
  cases h with
  | cleared hset hreset => simp [hreset, Event.slotAfter]
  | kept hnot =>
    cases hset : w.isSet with
    | false => simp
    | true => simpa using fun hreset => hnot ⟨hset, hreset⟩
  | _ => rfl

end Emits

namespace Narrated

variable {w v : World} {ds : List Deed} {es : List Event}

theorem exists_of_respects {P : CallProperty} (hds : ∀ d ∈ ds, d.Respects P w) :
    ∃ es, Narrated w ds es (ds.foldl World.after w) := by
  induction ds generalizing w with
  | nil => exact ⟨[], .nil⟩
  | cons d ds ih =>
    obtain ⟨hd, hrest⟩ := List.forall_mem_cons.1 hds
    obtain ⟨es, hes⟩ := World.exists_emits hd
    obtain ⟨rest, hnarrated⟩ := ih fun e he => (hrest e he).after d
    exact ⟨es ++ rest, .cons hes hnarrated⟩

theorem log (h : Narrated w ds es v) : v.log = w.log ++ es := by
  induction h with
  | nil => exact (List.append_nil _).symm
  | cons hemits _ ih => rw [ih, hemits.log, List.append_assoc]

theorem isSet (h : Narrated w ds es v) : v.isSet = es.foldl Event.slotAfter w.isSet := by
  induction h with
  | nil => rfl
  | cons hemits _ ih => rw [ih, hemits.isSet, List.foldl_append]

theorem filterMap_eq {β : Type} {read : Event → Option β} {told : Deed → Option β}
    (hread : ∀ {w v : World} {d : Deed} {es : List Event}, Emits w v d es →
      es.filterMap read = (told d).toList) (h : Narrated w ds es v) :
    es.filterMap read = ds.filterMap told := by
  induction h with
  | nil => rfl
  | @cons w v d ds es rest hemits _ ih =>
    rw [List.filterMap_append, hread hemits, ih]
    cases htold : told d <;> simp [htold]

theorem starts (h : Narrated w ds es v) : es.filterMap Event.start? = ds.filterMap Deed.start? :=
  h.filterMap_eq fun hemits => by cases hemits <;> rfl

theorem captures (h : Narrated w ds es v) :
    es.filterMap Event.capture? = (ds.filterMap Deed.call?).map Prod.snd := by
  rw [List.map_filterMap]
  exact h.filterMap_eq fun hemits => by cases hemits <;> rfl

theorem failures (h : Narrated w ds es v) : es.filterMap Event.failure? = ds.filterMap Deed.failure? :=
  h.filterMap_eq fun hemits => by cases hemits <;> rfl

theorem finished_mem_of_cleared (h : Narrated w ds es v) (hcleared : .slotCleared ∈ es) :
    .finished ∈ ds := by
  induction h with
  | nil => cases hcleared
  | @cons w v d ds es rest hemits _ ih =>
    rcases List.mem_append.1 hcleared with hes | hrest
    · cases hemits with
      | cleared => exact List.mem_cons_self
      | _ => simp at hes
    · exact List.mem_cons_of_mem _ (ih hrest)

theorem cleared_mem_iff_of_finished (hset : w.isSet) (h : Narrated w [.finished] es v) :
    .slotCleared ∈ es ↔ w.activeConfig.resetSlotOnFinish := by
  obtain - | ⟨hemits, hrest⟩ := h
  cases hrest
  cases hemits with
  | cleared _ hreset => exact iff_of_true List.mem_cons_self hreset
  | kept hnot => exact iff_of_false List.not_mem_nil fun hreset => hnot ⟨hset, hreset⟩

end Narrated

namespace Session

variable {s : Session} {c : Capability} {d : Deed}

theorem not_started_of_mem_deedsOn {α : Type} {subject : Subject c} {run : Target c → Traced α}
    (hd : d ∈ s.deedsOn subject run) : d.start? = none ∧ d ≠ .finished := by
  simp only [deedsOn] at hd
  cases ht : s.target? subject with
  | none => simp [ht] at hd
  | some t =>
    simp only [ht, List.mem_filterMap] at hd
    obtain ⟨note, -, hdeed⟩ := hd
    cases note with
    | captured x =>
      obtain ⟨id, -, rfl⟩ := Option.map_eq_some_iff.1 hdeed
      exact ⟨rfl, fun h => by cases h⟩
    | replayFailed i e =>
      cases hdeed
      exact ⟨rfl, fun h => by cases h⟩

theorem source_of_mem_deeds {step : Step} (hd : d ∈ s.deeds step) :
    (d.start? = none ∨ d.start? = step.start?) ∧ (d = .finished → step.isFinish) := by
  have hsubject (h : d.start? = none ∧ d ≠ .finished) :
      (d.start? = none ∨ d.start? = step.start?) ∧ (d = .finished → step.isFinish) :=
    ⟨.inl h.1, fun heq => absurd heq h.2⟩
  cases step with
  | start c name =>
    cases List.mem_singleton.1 hd
    exact ⟨.inr rfl, fun h => by cases h⟩
  | call | direct => exact hsubject (not_started_of_mem_deedsOn hd)
  | replay | evaluate =>
    simp only [deeds] at hd
    split at hd
    · cases hd
    · exact hsubject (not_started_of_mem_deedsOn hd)
  | finish =>
    simp only [deeds] at hd
    split at hd
    · cases hd
    · cases List.mem_singleton.1 hd
      exact ⟨.inl rfl, fun _ => rfl⟩
  | intercept | unguard =>
    simp only [deeds] at hd
    split at hd
    · cases hd
    · cases List.mem_singleton.1 hd
      exact ⟨.inl rfl, fun h => by cases h⟩
  | create | setConfig | resetConfig | reset | guard =>
    cases List.mem_singleton.1 hd
    exact ⟨.inl rfl, fun h => by cases h⟩
  | drop | captured | make | same | build | active | isSet => cases hd

theorem start?_deeds (s : Session) (step : Step) :
    (s.deeds step).filterMap Deed.start? = step.start?.toList := by
  cases hstart : step.start? with
  | none =>
    refine List.filterMap_eq_nil_iff.2 fun d hd => ?_
    rcases (source_of_mem_deeds hd).1 with h | h
    · exact h
    · exact h.trans hstart
  | some c =>
    cases step with
    | start => exact congrArg Option.toList hstart
    | _ => cases hstart

theorem cleared_mem_iff {step : Step} {es : List Event} {v : World}
    (h : Narrated s.world (s.deeds step) es v) :
    .slotCleared ∈ es ↔ step.isFinish ∧ (s.run step).1.isFailure = false ∧
      s.world.activeConfig.resetSlotOnFinish := by
  by_cases hfinish : step.isFinish
  · cases step with
    | finish c flavor u inner panicking keeping =>
      simp only [deeds, World.fst_finish] at h
      cases houtcome : s.world.outcome c flavor u with
      | error e =>
        simp only [houtcome, Except.map] at h
        cases h
        rw [run_finish_of_error s c flavor inner panicking keeping houtcome]
        cases panicking <;> simp [Reply.isFailure]
      | ok i =>
        simp only [houtcome, Except.map] at h
        have hset := (World.finished_of_outcome s.world c flavor inner houtcome).isSet
        rw [fst_run_finish_of_ok s c flavor inner panicking keeping houtcome,
          h.cleared_mem_iff_of_finished hset]
        simp [Step.isFinish, Reply.isFailure]
    | _ => cases hfinish
  · simp only [hfinish, Bool.false_eq_true, false_and, iff_false]
    exact fun hcleared => hfinish ((source_of_mem_deeds (h.finished_mem_of_cleared hcleared)).2 rfl)

theorem exists_narrated (hs : s.WellNamed) (step : Step) :
    ∃ es, Narrated s.world (s.deeds step) es (s.run step).2.world := by
  rw [world_run]
  exact Narrated.exists_of_respects (respects_deeds (P := fun _ _ => True) hs (fun _ _ => trivial)
    (by cases step <;> trivial))

theorem narrated_report (hs : s.WellNamed) (step : Step) :
    Narrated s.world (s.deeds step) (s.report step).1.events (s.report step).2.world := by
  obtain ⟨es, h⟩ := exists_narrated hs step
  have hevents : (s.report step).1.events = es :=
    (congrArg (List.drop _) h.log).trans List.drop_left
  rw [hevents]
  exact h

/-- What the events of a step tell: how the slot is left, the start, the finisher that empties the slot, the
calls on stand-ins and the replays that fail, each by one event. -/
structure Told (s : Session) (step : Step) (r : Report) (t : Session) : Prop where
  narrated : Narrated s.world (s.deeds step) r.events t.world
  slot : r.isSet = r.events.foldl Event.slotAfter s.world.isSet
  starts : r.events.filterMap Event.start? = step.start?.toList
  cleared : .slotCleared ∈ r.events ↔ step.isFinish ∧ r.reply.isFailure = false ∧
    s.world.activeConfig.resetSlotOnFinish
  calls : (s.deeds step).filterMap Deed.call? = s.calls step
  captures : r.events.filterMap Event.capture? = (s.calls step).map Prod.snd
  failures : r.events.filterMap Event.failure? = s.failures step

theorem told_report (hs : s.WellNamed) (step : Step) :
    s.Told step (s.report step).1 (s.report step).2 :=
  have h := narrated_report hs step
  { narrated := h
    slot := h.isSet
    starts := h.starts.trans (s.start?_deeds step)
    cleared := cleared_mem_iff h
    calls := s.call?_deeds step
    captures := by rw [h.captures, s.call?_deeds step]
    failures := h.failures.trans (s.failure?_deeds step) }

theorem log_runAll (hs : s.WellNamed) (steps : List Step) :
    (s.runAll steps).2.world.log = s.world.log ++ (s.runAll steps).1.flatMap (·.events) ∧
      (s.runAll steps).2.world.isSet =
        ((s.runAll steps).1.flatMap (·.events)).foldl Event.slotAfter s.world.isSet := by
  induction steps generalizing s with
  | nil => exact ⟨(List.append_nil _).symm, rfl⟩
  | cons step rest ih =>
    have h := narrated_report hs step
    obtain ⟨hlog, hset⟩ := ih (hs.run step)
    rw [runAll_cons, List.flatMap_cons, List.foldl_append, ← List.append_assoc]
    exact ⟨hlog.trans (congrArg (· ++ _) h.log), hset.trans (congrArg (List.foldl _ · _) h.isSet)⟩

/-- After every run the log holds the events that the steps reported, and whether the slot is set can be
folded from them; and the events of every next step tell what it does. -/
theorem log_tells_history (steps : List Step) :
    let events := (initial.runAll steps).1.flatMap (·.events)
    let s := (initial.runAll steps).2
    s.world.log = events ∧ s.world.isSet = events.foldl Event.slotAfter false ∧
      ∀ step, s.Told step (s.report step).1 (s.report step).2 := by
  intro events s
  obtain ⟨hlog, hset⟩ := log_runAll wellNamed_initial steps
  exact ⟨hlog, hset, told_report (wellNamed_initial.runAll steps)⟩

example :
    ((initial.runAll [.start .person "p", .call "p" Method.getAge (),
      .finish .person .hasValue (.int .u32) (.anything "") false ⟨none, "m"⟩]).1.flatMap
        (·.events)).map Event.message =
      ["capture slot set", "captured invocation", "capture slot cleared"] := rfl

end Session

end Facet
