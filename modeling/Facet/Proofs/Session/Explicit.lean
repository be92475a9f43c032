import Facet.Proofs.Session.Fluent

namespace Facet

namespace World

variable {w : World} {d : Deed} {c : Capability} {id : Nat}

theorem getElem?_recorders_create_call (w : World) (c : Capability) (x : Except CaptureError Invocation) :
    ((w.after (.created c)).after (.called w.recorders.length x)).recorders[w.recorders.length]? =
      some ⟨c, some x⟩ := by
  simp [getElem?_recorders_after, Recorder.fresh]

theorem getElem?_recorders_make_call {x : Except CaptureError Invocation}
    (hid : id < w.recorders.length) (hd : d.new? = some c) :
    ((w.after d).after (.called w.recorders.length x)).recorders[id]? = w.recorders[id]? := by
  have hlength : id < (w.after d).recorders.length := by
    rw [length_recorders_after]
    exact Nat.lt_add_right _ hid
  rw [getElem?_recorders_after_of_lt hlength (fun y h => Nat.ne_of_gt hid (Deed.called.inj h).1),
    getElem?_recorders_after_of_lt hid]
  rintro y rfl
  cases hd

end World

namespace Session

variable {c : Capability}

def callNew (s : Session) (name : String) (m : Method c) (args : Args m.params) : Session :=
  ((s.run (.create c name)).2.run (.call name m args)).2

def assemble (s : Session) (name key : String) (m : Method c) (args : Args m.params) (flavor : Flavor)
    {u : Ty} (inner : ValueMatcher u) (keeping : Keeping) : Reply × Session :=
  match (s.callNew name m args).run (.captured c name (some key)) with
  | (.invocation _, t) => t.run (.build c flavor u inner key keeping)
  | failed => failed

def built (s : Session) (m : Method c) (args : Args m.params) (flavor : Flavor) {u : Ty}
    (inner : ValueMatcher u) : Except CaptureError (Replaying c) :=
  ((m.capture args).bind (·.suited c u)).map fun i =>
    ⟨u, flavor, i, s.world.activeConfig.diagnostics, inner⟩

/-- The session `t` comes from `s` by a new stand-in under the name; the matchers, and the stand-ins that
were there before, are as they were. -/
structure Prepares (s : Session) (c : Capability) (name : String) (t : Session) : Prop where
  standIns : t.standIns = update s.standIns c (·.keep name s.world.recorders.length)
  matchers : t.matchers = s.matchers
  recorders : ∀ id < s.world.recorders.length, t.world.recorders[id]? = s.world.recorders[id]?

theorem prepares_make_call {s : Session} {making : Step} {d : Deed} {name : String}
    (hdeeds : s.deeds making = [d]) (hd : d.new? = some c)
    (hnames : making.standInsAfter s.standIns s.world.recorders.length =
      update s.standIns c (·.keep name s.world.recorders.length))
    (hmatchers : (s.run making).2.matchers = s.matchers) (m : Method c) (args : Args m.params) :
    s.Prepares c name ((s.run making).2.run (.call name m args)).2 where
  standIns := by
    rw [standIns_run]
    exact (s.standIns_run making).trans hnames
  matchers := (congrArg matchers (runOn_eq _ (.standIn name) (m.call args) _)).trans hmatchers
  recorders id hid := by
    rw [world_make_call hdeeds hnames]
    exact World.getElem?_recorders_make_call hid hd

theorem Prepares.withWorld {s t : Session} {name : String} {w : World} (h : s.Prepares c name t)
    (hw : w.recorders = t.world.recorders) : s.Prepares c name { t with world := w } where
  standIns := h.standIns
  matchers := h.matchers
  recorders id hid := by rw [hw, h.recorders id hid]

section

variable (s : Session) (name key : String) (m : Method c) (args : Args m.params) (flavor : Flavor) {u : Ty}
  (inner : ValueMatcher u) (panicking : Bool) (keeping : Keeping)

theorem exists_capture_eq :
    ∃ t, s.Prepares c name t ∧
      s.capture name m args flavor inner panicking keeping =
        t.conclude panicking keeping (s.built m args flavor inner) := by
  have hprepares : s.Prepares c name ((s.run (.start c name)).2.run (.call name m args)).2 :=
    prepares_make_call (d := .started c) rfl rfl rfl rfl m args
  rw [capture, run_finish_eq, outcome_start_call, activeConfig_start_call]
  exact ⟨_, hprepares.withWorld (World.recorders_finish ..), rfl⟩

theorem prepares_callNew : s.Prepares c name (s.callNew name m args) :=
  prepares_make_call (d := .created c) rfl rfl rfl rfl m args

theorem world_callNew :
    (s.callNew name m args).world =
      (s.world.after (.created c)).after (.called s.world.recorders.length (m.capture args)) :=
  world_make_call rfl rfl m args

theorem run_captured_callNew :
    (s.callNew name m args).run (.captured c name (some key)) =
      match m.capture args with
      | .error e => (.captureError e, s.callNew name m args)
      | .ok i => (.invocation i, (s.callNew name m args).keepInvocation key i) := by
  have hrecorder : (((s.callNew name m args).standIns c).find? name).bind
      ((s.callNew name m args).world.recorders[·]?) = some ⟨c, some (m.capture args)⟩ := by
    rw [(prepares_callNew s name m args).standIns, update_self, Names.find?_keep, if_pos rfl,
      Option.bind_some, world_callNew, World.getElem?_recorders_create_call]
  simp only [run, hrecorder]
  rfl

theorem run_build_keepInvocation (i : Invocation) :
    (s.keepInvocation key i).run (.build c flavor u inner key keeping) =
      (s.keepInvocation key i).conclude false keeping ((i.suited c u).map fun i =>
        (⟨u, flavor, i, s.world.activeConfig.diagnostics, inner⟩ : Replaying c)) := by
  have hkey : (s.keepInvocation key i).invocations.find? key = some i := by
    simp [keepInvocation, Names.find?_keep]
  simp only [run, hkey, World.build, Replaying.new_eq]
  rfl

theorem exists_assemble_eq :
    ∃ t, s.Prepares c name t ∧ t.world.slot = s.world.slot ∧
      s.assemble name key m args flavor inner keeping =
        t.conclude false keeping (s.built m args flavor inner) := by
  have hprepares := prepares_callNew s name m args
  have hslot : (s.callNew name m args).world.slot = s.world.slot := by
    simp [world_callNew, World.slot_after]
  have hconfig : (s.callNew name m args).world.activeConfig = s.world.activeConfig := by
    rw [world_callNew, World.activeConfig_make_call rfl]
  cases hcapture : m.capture args with
  | error e =>
    refine ⟨_, hprepares, hslot, ?_⟩
    simp only [assemble, run_captured_callNew, hcapture, built, Except.bind, Except.map]
    rfl
  | ok i =>
    -- That the invocation is kept is seen by the construction only.
    refine ⟨(s.callNew name m args).keepInvocation key i,
      ⟨hprepares.standIns, hprepares.matchers, hprepares.recorders⟩, hslot, ?_⟩
    simp only [assemble, run_captured_callNew, hcapture, built, Except.bind, run_build_keepInvocation,
      hconfig]

end

theorem fst_run_evaluate_congr {s t : Session} (hstandIns : s.standIns = t.standIns)
    (hmatchers : s.matchers = t.matchers) (expression : Matcher String) (subject : Subject c)
    (keepAs : Option String) :
    (s.run (.evaluate expression subject keepAs)).1 = (t.run (.evaluate expression subject keepAs)).1 := by
  have htarget : s.target? subject = t.target? subject := by
    cases subject with
    | real i => rfl
    | standIn name => simp only [target?, hstandIns]
  exact fst_run_evaluate_eq (by rw [hmatchers]) htarget keepAs keepAs

/-- In every session the two forms come to the same error or to the same matcher, and evaluations say the
same after either. The explicit form leaves the slot as it was, and neither form touches a stand-in that
was there. -/
theorem fluent_agrees_with_explicit (s : Session) (name key : String) (m : Method c)
    (args : Args m.params) (flavor : Flavor) {u : Ty} (inner : ValueMatcher u) (keeping : Keeping) :
    ((∃ e, (s.capture name m args flavor inner false keeping).1 = .captureError e ∧
        (s.assemble name key m args flavor inner keeping).1 = .captureError e) ∨
      ∃ i : Invocation,
        let r : Replaying c :=
          ⟨u, flavor, i, keeping.diagnostics.getD s.world.activeConfig.diagnostics, inner⟩
        (s.capture name m args flavor inner false keeping).1 = .matcher r ∧
          (s.assemble name key m args flavor inner keeping).1 = .matcher r) ∧
    (∀ (expression : Matcher String) (subject : Subject c) (keepAs : Option String),
      ((s.capture name m args flavor inner false keeping).2.run
          (.evaluate expression subject keepAs)).1 =
        ((s.assemble name key m args flavor inner keeping).2.run
          (.evaluate expression subject keepAs)).1) ∧
    (s.assemble name key m args flavor inner keeping).2.world.slot = s.world.slot ∧
    ∀ id < s.world.recorders.length,
      (s.capture name m args flavor inner false keeping).2.world.recorders[id]? =
          s.world.recorders[id]? ∧
        (s.assemble name key m args flavor inner keeping).2.world.recorders[id]? =
          s.world.recorders[id]? := by
  obtain ⟨t, ht, hcapture⟩ := exists_capture_eq s name m args flavor inner false keeping
  obtain ⟨t', ht', hslot, hassemble⟩ := exists_assemble_eq s name key m args flavor inner keeping
  rw [hcapture, hassemble]
  refine ⟨?_, fun expression subject keepAs => ?_, ?_, fun id hid => ⟨?_, ?_⟩⟩
  · cases hbuilt : (m.capture args).bind (·.suited c u) with
    | error e =>
      simp only [built, hbuilt]
      exact .inl ⟨e, rfl, rfl⟩
    | ok i =>
      simp only [built, hbuilt, Except.map, conclude_ok]
      exact .inr ⟨i, rfl, rfl⟩
  · apply fst_run_evaluate_congr
    · rw [standIns_conclude, standIns_conclude, ht.standIns, ht'.standIns]
    · exact matchers_conclude_congr (ht.matchers.trans ht'.matchers.symm) _ _ _
  · rw [world_conclude, hslot]
  · rw [world_conclude, ht.recorders id hid]
  · rw [world_conclude, ht'.recorders id hid]

end Session

end Facet
