import Facet.Proofs.Invocation.Replay
import Facet.Proofs.Matcher.Replaying
import Facet.Proofs.Session.Finish
import Facet.Proofs.Session.History

namespace Facet

namespace Method

variable {c : Capability} {m : Method c} {args : Args m.params}

theorem bind_suited_capture (m : Method c) (args : Args m.params) :
    ((m.capture args).bind (·.suited c m.returns)) = m.capture args := by
  cases h : m.capture args with
  | error e => rfl
  | ok i =>
    have hmember := (capture_eq_ok_iff.1 h).1
    simp [Except.bind, Invocation.suited, hmember, member]

end Method

/-- Whatever the invocation is replayed on, it is the method that answers, with a value or a panic. -/
def Invocation.Replayable (i : Invocation) (c : Capability) (u : Ty) : Prop :=
  ∀ target : Target c, (∃ v, (i.replay u target).outcome = .ok (.ok v)) ∨
    ∃ p, (i.replay u target).outcome = .ok (.error (.panicked p))

theorem Method.replayable_of_capture {c : Capability} {m : Method c} {args : Args m.params}
    {i : Invocation} (h : m.capture args = .ok i) : i.Replayable c m.returns := by
  intro target
  rw [Invocation.replay_of_capture target h]
  cases (m.call (replayedArgs m.params args) target).outcome with
  | error p => exact .inr ⟨p, rfl⟩
  | ok v => exact .inl ⟨v, rfl⟩

theorem World.activeConfig_make_call {w : World} {d : Deed} {c : Capability} {id : Nat}
    {x : Except CaptureError Invocation} (hd : d.new? = some c) :
    ((w.after d).after (.called id x)).activeConfig = w.activeConfig := by
  rw [activeConfig, config_after, config_after]
  cases d with
  | started | created => rfl
  | called | replayFailed | finished | emptied | configured => cases hd

namespace Session

variable {c : Capability}

def capture (s : Session) (name : String) (m : Method c) (args : Args m.params) (flavor : Flavor)
    {u : Ty} (inner : ValueMatcher u) (panicking : Bool) (keeping : Keeping) : Reply × Session :=
  ((s.run (.start c name)).2.run (.call name m args)).2.run
    (.finish c flavor u inner panicking keeping)

theorem world_make_call {s : Session} {making : Step} {d : Deed} {name : String}
    (hdeeds : s.deeds making = [d])
    (hnames : making.standInsAfter s.standIns s.world.recorders.length =
      update s.standIns c (·.keep name s.world.recorders.length))
    (m : Method c) (args : Args m.params) :
    ((s.run making).2.run (.call name m args)).2.world =
      (s.world.after d).after (.called s.world.recorders.length (m.capture args)) := by
  have hname : ((s.run making).2.standIns c).find? name = some s.world.recorders.length := by
    simp [standIns_run, hnames, Names.find?_keep]
  rw [world_run, deeds_call hname, world_run, hdeeds]
  rfl

theorem world_start_call (s : Session) (name : String) (m : Method c) (args : Args m.params) :
    ((s.run (.start c name)).2.run (.call name m args)).2.world =
      (s.world.after (.started c)).after (.called s.world.recorders.length (m.capture args)) :=
  world_make_call rfl rfl m args

theorem pending_start_call (w : World) (c : Capability) (x : Except CaptureError Invocation)
    (flavor : Flavor) :
    ((w.after (.started c)).after (.called w.recorders.length x)).pending flavor = x := by
  have hlength : (w.after (.started c)).recorders.length = w.recorders.length + 1 := by
    simp [World.length_recorders_after, Deed.new?]
  have hslot : ((w.after (.started c)).after (.called w.recorders.length x)).slot =
      some w.recorders.length := by
    simp [World.slot_after]
  have howns : ((w.after (.started c)).after (.called w.recorders.length x)).Owns w.recorders.length c := by
    simp [World.owns_after_iff, Deed.new?]
  rw [World.pending_of_slot flavor hslot howns]
  simp [World.received_after, hlength]

theorem run_replay_of_replayable {s : Session} {i : Invocation} {u : Ty} {key : String}
    {subject : Subject c} (hi : i.Replayable c u) (hkey : s.invocations.find? key = some i)
    (hsubject : (s.target? subject).isSome) :
    (∃ text, (s.run (.replay u key subject)).1 = .rendering text) ∨
      ∃ p, (s.run (.replay u key subject)).1 = .replayError (.panicked p) := by
  obtain ⟨⟨target, id⟩, htarget⟩ := Option.isSome_iff_exists.1 hsubject
  simp only [run, hkey, runOn, htarget]
  rcases hi target with ⟨v, hv⟩ | ⟨p, hp⟩
  · exact .inl ⟨u.render v, by simp [hv]⟩
  · exact .inr ⟨p, by simp [hp]⟩

section

variable (s : Session) (name : String) (m : Method c) (args : Args m.params) (flavor : Flavor)
  (inner : ValueMatcher m.returns) (panicking : Bool) (keeping : Keeping)

theorem outcome_start_call (u : Ty) :
    ((s.run (.start c name)).2.run (.call name m args)).2.world.outcome c flavor u =
      (m.capture args).bind (·.suited c u) := by
  rw [World.outcome, world_start_call, pending_start_call]

theorem activeConfig_start_call :
    ((s.run (.start c name)).2.run (.call name m args)).2.world.activeConfig =
      s.world.activeConfig := by
  rw [world_start_call, World.activeConfig_make_call rfl]

theorem fst_capture :
    (s.capture name m args flavor inner panicking keeping).1 =
      .ofOutcome c flavor inner panicking (keeping.diagnostics.getD s.world.activeConfig.diagnostics)
        (m.capture args) := by
  rw [capture, fst_run_finish, outcome_start_call, activeConfig_start_call, Method.bind_suited_capture]

variable {args}

end

/-- A fluent form fails only at the first argument that is refused. What it builds otherwise can be
replayed at any time: only the method itself can fail. -/
theorem capture_refused_or_replayable (s : Session) (name : String) (m : Method c)
    (args : Args m.params) (flavor : Flavor) (inner : ValueMatcher m.returns) (keeping : Keeping) :
    (∃ k refusal, FirstRefused (captureArgs m.params args) k refusal ∧
      (s.capture name m args flavor inner false keeping).1 =
        .captureError (.capture m.member k refusal)) ∨
    ((∀ x ∈ captureArgs m.params args, ∃ captured, x = .ok captured) ∧
      ∃ r : Replaying c, (s.capture name m args flavor inner false keeping).1 = .matcher r ∧
        r.invocation.member = m.member ∧ r.invocation.Replayable c m.returns ∧
        ∀ (t : Session) (key : String) (subject : Subject c),
          t.invocations.find? key = some r.invocation → (t.target? subject).isSome →
          (∃ text, (t.run (.replay m.returns key subject)).1 = .rendering text) ∨
            ∃ p, (t.run (.replay m.returns key subject)).1 = .replayError (.panicked p)) := by
  rw [fst_capture]
  cases h : m.capture args with
  | error e =>
    obtain ⟨k, refusal, hk, rfl⟩ := Method.exists_firstRefused_of_capture h
    exact .inl ⟨k, refusal, hk, rfl⟩
  | ok i =>
    obtain ⟨hmember, hargs⟩ := Method.capture_eq_ok_iff.1 h
    refine .inr ⟨by simp [hargs], _, rfl, hmember, Method.replayable_of_capture h, ?_⟩
    intro t key subject hkey hsubject
    exact run_replay_of_replayable (Method.replayable_of_capture h) hkey hsubject

end Session

end Facet
