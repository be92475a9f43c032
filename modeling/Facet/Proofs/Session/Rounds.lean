import Facet.Proofs.Invocation.Recapture
import Facet.Proofs.Session.Replay

namespace Facet

namespace Session

variable {c : Capability} {s : Session} {m : Method c} {i j : Invocation} {source target : String}

def Holds (s : Session) (c : Capability) (name : String) (i : Invocation) : Prop :=
  ∃ id, (s.standIns c).find? name = some id ∧ s.world.received id = some (.ok i)

def round (s : Session) (c : Capability) (u : Ty) (key source target : String) : Reply × Session :=
  (s.run (.captured c source (some key))).2.run (.replay (c := c) u key (.standIn target))

def rounds (s : Session) (c : Capability) (u : Ty) (key source : String) :
    List String → List Reply × Session
  | [] => ([], s)
  | target :: rest =>
    let (reply, s) := s.round c u key source target
    let (replies, s) := s.rounds c u key target rest
    (reply :: replies, s)

theorem run_captured_of_holds (h : s.Holds c source i) (key : String) :
    s.run (.captured c source (some key)) = (.invocation i, s.keepInvocation key i) := by
  obtain ⟨id, hname, hreceived⟩ := h
  obtain ⟨r, hr, hcaptured⟩ := Option.bind_eq_some_iff.1 hreceived
  simp only [run, hname, Option.bind_some, hr, Recorder.invocation, hcaptured, Option.getD_some]

theorem run_replay_of_recaptures (htrunc : .trunc ∉ m.params) (hveiled : .veiled ∉ m.params)
    {key : String} (hkey : s.invocations.find? key = some j) (hj : m.Recaptures i j) {id : Nat}
    (htarget : (s.standIns c).find? target = some id) :
    ∃ k, m.Recaptures i k ∧
      s.run (.replay (c := c) m.returns key (.standIn target)) =
        (.rendering (m.returns.render m.returns.default),
          { s with world := s.world.record id (.ok k) }) := by
  obtain ⟨k, hreplay, hk⟩ := hj.replay htrunc hveiled
  exact ⟨k, hk, run_replay_standIn hkey htarget hreplay⟩

theorem round_of_holds (key : String) (htrunc : .trunc ∉ m.params) (hveiled : .veiled ∉ m.params)
    (hsource : s.Holds c source j) (hj : m.Recaptures i j) {id : Nat}
    (htarget : (s.standIns c).find? target = some id) :
    ∃ k, m.Recaptures i k ∧
      s.round c m.returns key source target =
        (.rendering (m.returns.render m.returns.default),
          { s.keepInvocation key j with world := s.world.record id (.ok k) }) := by
  have hkey : (s.keepInvocation key j).invocations.find? key = some j := by
    simp [keepInvocation, Names.find?_keep]
  rw [round, run_captured_of_holds hsource key]
  exact run_replay_of_recaptures (s := s.keepInvocation key j) htrunc hveiled hkey hj htarget

def Recaptured (s : Session) (m : Method c) (i : Invocation) (name : String) : Prop :=
  ∃ j, s.Holds c name j ∧ m.Recaptures i j

theorem Recaptured.record {name : String} {k : Invocation} {id : Nat} (h : s.Recaptured m i name)
    (hk : m.Recaptures i k) (key : String) :
    { s.keepInvocation key j with world := s.world.record id (.ok k) }.Recaptured m i name := by
  obtain ⟨l, ⟨other, hname, hreceived⟩, hl⟩ := h
  have hrecord := s.world.received_record_eq id (.ok k) other
  by_cases hother : other = id ∧ id < s.world.recorders.length
  · rw [if_pos hother] at hrecord
    exact ⟨k, ⟨other, hname, hrecord⟩, hk⟩
  · rw [if_neg hother] at hrecord
    exact ⟨l, ⟨other, hname, hrecord.trans hreceived⟩, hl⟩

/-- The invariant of the rounds: a stand-in that has captured the call once keeps an equal one, and the
target of each round joins them. -/
theorem rounds_of_recaptured (key : String) (htrunc : .trunc ∉ m.params) (hveiled : .veiled ∉ m.params)
    {targets : List String} (hs : s.WellNamed) (hsource : s.Recaptured m i source)
    (htargets : ∀ name ∈ targets, ∃ id, (s.standIns c).find? name = some id) :
    (s.rounds c m.returns key source targets).1 =
        List.replicate targets.length (.rendering (m.returns.render m.returns.default)) ∧
      ∀ name, s.Recaptured m i name ∨ name ∈ targets →
        (s.rounds c m.returns key source targets).2.Recaptured m i name := by
  induction targets generalizing s source with
  | nil => exact ⟨rfl, fun name h => h.resolve_right nofun⟩
  | cons target rest ih =>
    obtain ⟨⟨id, htarget⟩, hrest⟩ := List.forall_mem_cons.1 htargets
    obtain ⟨j, hholds, hj⟩ := hsource
    obtain ⟨k, hk, hround⟩ := round_of_holds key htrunc hveiled hholds hj htarget
    have hnamed : (s.round c m.returns key source target).2.WellNamed := (hs.run _).run _
    have hreceived : (s.world.record id (.ok k)).received id = some (.ok k) :=
      World.received_record (hs c target id htarget).lt
    rw [hround] at hnamed
    obtain ⟨hreplies, hkept⟩ := ih hnamed ⟨k, ⟨id, htarget, hreceived⟩, hk⟩ hrest
    simp only [rounds, hround]
    refine ⟨congrArg (_ :: ·) hreplies, fun name h => hkept name ?_⟩
    -- Whoever held a call before still holds one, also if it is the target and was called again.
    rcases h with h | h
    · exact .inl (h.record hk key)
    · rcases List.mem_cons.1 h with rfl | h
      · exact .inl ⟨k, ⟨id, htarget, hreceived⟩, hk⟩
      · exact .inr h

/-- A captured call that is replayed on a stand-in returns the default and is captured again, and so it is in
every further round. -/
theorem replay_records_again {args : Args m.params} (htrunc : .trunc ∉ m.params)
    (hveiled : .veiled ∉ m.params) (hi : m.capture args = .ok i) :
    (∃ j, i.replay m.returns (.standIn : Target c) =
        ⟨.ok (.ok m.returns.default), [.captured (.ok j)]⟩ ∧ j.eqv i) ∧
      ∀ (steps : List Step) (key name : String),
        let s := (initial.runAll steps).2
        let returned : Reply := .rendering (m.returns.render m.returns.default)
        (∀ id, s.invocations.find? key = some i → (s.standIns c).find? name = some id →
          ∃ j, s.run (.replay (c := c) m.returns key (.standIn name)) =
              (returned, { s with world := s.world.record id (.ok j) }) ∧
            (s.world.record id (.ok j)).received id = some (.ok j) ∧ j.eqv i) ∧
        ∀ targets : List String, s.Holds c name i →
          (∀ target ∈ targets, ∃ id, (s.standIns c).find? target = some id) →
          (s.rounds c m.returns key name targets).1 = List.replicate targets.length returned ∧
            ∀ holder ∈ name :: targets, ∃ j,
              (s.rounds c m.returns key name targets).2.Holds c holder j ∧ j.eqv i := by
  have hrefl := Method.Recaptures.refl hi
  refine ⟨?_, fun steps key name => ⟨fun id hkey hname => ?_, fun targets hname htargets => ?_⟩⟩
  · obtain ⟨j, hreplay, hj⟩ := hrefl.replay htrunc hveiled
    exact ⟨j, hreplay, hj.eqv hi⟩
  · obtain ⟨j, hj, hrun⟩ := run_replay_of_recaptures htrunc hveiled hkey hrefl hname
    have hid := (wellNamed_initial.runAll steps c name id hname).lt
    exact ⟨j, hrun, World.received_record hid, hj.eqv hi⟩
  · have hrecaptured : (initial.runAll steps).2.Recaptured m i name := ⟨i, hname, hrefl⟩
    obtain ⟨hreplies, hkept⟩ := rounds_of_recaptured key htrunc hveiled
      (wellNamed_initial.runAll steps) hrecaptured htargets
    refine ⟨hreplies, fun holder hholder => ?_⟩
    obtain ⟨j, hholds, hj⟩ := hkept holder (by
      rcases List.mem_cons.1 hholder with rfl | hholder
      · exact .inl hrecaptured
      · exact .inr hholder)
    exact ⟨j, hholds, hj.eqv hi⟩

theorem replay_records_again_masked :
    let m : Method .kit := .masked
    let args : Args m.params := (Argument.secretive, ())
    let i : Invocation := ⟨m.member, [Argument.secretiveCaptured]⟩
    let s := (initial.runAll [.create .kit "a", .create .kit "b", .call "b" Method.nothing ((), ()),
      .call "a" m args]).2
    .trunc ∉ m.params ∧ .veiled ∉ m.params ∧ m.capture args = .ok i ∧ s.Holds .kit "a" i ∧
      (s.rounds .kit m.returns "key" "a" ["b", "a"]).1 = [.rendering "<0>", .rendering "<0>"] ∧
      ∃ j, (s.rounds .kit m.returns "key" "a" ["b", "a"]).2.Holds .kit "b" j ∧ j.eqv i := by
  intro m args i s
  have htrunc : .trunc ∉ m.params := by decide
  have hveiled : .veiled ∉ m.params := by decide
  have hi : m.capture args = .ok i := rfl
  have hholds : s.Holds .kit "a" i := ⟨0, rfl, rfl⟩
  have hnames : ∀ target ∈ ["b", "a"], ∃ id, (s.standIns .kit).find? target = some id :=
    List.forall_mem_cons.2 ⟨⟨1, rfl⟩, List.forall_mem_cons.2 ⟨⟨0, rfl⟩, nofun⟩⟩
  obtain ⟨-, hsessions⟩ := replay_records_again htrunc hveiled hi
  obtain ⟨-, hrounds⟩ := hsessions [.create .kit "a", .create .kit "b",
    .call "b" Method.nothing ((), ()), .call "a" m args] "key" "a"
  obtain ⟨hreplies, hkept⟩ := hrounds ["b", "a"] hholds hnames
  exact ⟨htrunc, hveiled, hi, hholds, hreplies, hkept "b" (by simp)⟩

end Session

end Facet
