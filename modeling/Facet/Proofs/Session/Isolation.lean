import Facet.Proofs.Matcher.Calm
import Facet.Proofs.Matcher.Expression
import Facet.Proofs.Session.Finish

namespace Facet

namespace World

variable {w v u : World} {id : Option Nat}

/-- The worlds differ at most in the log and in what the recorder `id`, if any, received. -/
structure SameBut (id : Option Nat) (w v : World) : Prop where
  slot : v.slot = w.slot
  config : v.config = w.config
  owners : ∀ j : Nat, (v.recorders[j]?).map Recorder.owner = (w.recorders[j]?).map Recorder.owner
  recorders : ∀ j : Nat, id ≠ some j → v.recorders[j]? = w.recorders[j]?

namespace SameBut

theorem refl (id : Option Nat) (w : World) : w.SameBut id w := ⟨rfl, rfl, fun _ => rfl, fun _ _ => rfl⟩

theorem trans (h : w.SameBut id v) (h' : v.SameBut id u) : w.SameBut id u where
  slot := h'.slot.trans h.slot
  config := h'.config.trans h.config
  owners j := (h'.owners j).trans (h.owners j)
  recorders j hj := (h'.recorders j hj).trans (h.recorders j hj)

theorem emit (id : Option Nat) (w : World) (e : Event) : w.SameBut id (w.emit e) :=
  ⟨rfl, rfl, fun _ => rfl, fun _ _ => rfl⟩

theorem record (w : World) (id : Nat) (x : Except CaptureError Invocation) :
    w.SameBut (some id) (w.record id x) where
  slot := slot_record id x
  config := config_record id x
  owners j := by
    rw [getElem?_recorders_record]
    split
    · rw [Option.map_map]
      rfl
    · rfl
  recorders j hj := by
    rw [getElem?_recorders_record, if_neg fun h => hj (congrArg some h.symm)]

theorem settle (w : World) (id : Option Nat) (notes : List Note) :
    w.SameBut id (w.settle id notes) := by
  induction notes generalizing w with
  | nil => exact .refl id w
  | cons note notes ih =>
    cases note with
    | captured x =>
      cases id with
      | none => exact ih w
      | some id => exact (record w id x).trans (ih _)
    | replayFailed i e => exact (emit id w _).trans (ih _)

end SameBut

end World

namespace Step

def keeping? : Step → Option (Capability × Keeping)
  | .finish c _ _ _ _ keeping | .build c _ _ _ _ keeping => some (c, keeping)
  | _ => none

def matcherName? : Step → Option (Capability × String)
  | .finish c _ _ _ _ keeping | .build c _ _ _ _ keeping => some (c, keeping.name)
  | .evaluate (c := c) _ _ (some key) => some (c, key)
  | _ => none

def standInName? : Step → Option (Capability × String)
  | .start c name | .create c name | .drop c name => some (c, name)
  | _ => none

/-- The names in the expression, and that of the subject, go on to mean what they mean. -/
structure Spares {c : Capability} (step : Step) (expression : Matcher String) (subject : Subject c) :
    Prop where
  matchers : ∀ name ∈ expression.criteria, step.matcherName? ≠ some (c, name)
  subject : ∀ name, subject = .standIn name → step.standInName? ≠ some (c, name)

end Step

namespace Session

variable {s : Session} {c d : Capability} {name key : String} {step : Step}

theorem find?_update_of_ne {α : Capability → Type} (f : (c : Capability) → Names (α c))
    {g : Names (α d) → Names (α d)} (hg : ∀ ns, name ≠ key → (g ns).find? name = ns.find? name)
    (h : (d, key) ≠ (c, name)) :
    (update (α := fun c => Names (α c)) f d g c).find? name = (f c).find? name := by
  by_cases hd : d = c
  · subst hd
    rw [update_self]
    exact hg _ fun hname => h (by rw [hname])
  · rw [update_of_ne f g hd]

theorem find?_matchers_keepMatcher (m : InstanceMatcher d) (h : (d, key) ≠ (c, name)) :
    ((s.keepMatcher d key m).matchers c).find? name = (s.matchers c).find? name :=
  find?_update_of_ne (g := (·.keep key m)) s.matchers
    (fun ns hname => (ns.find?_keep key name m).trans (if_neg hname)) h

theorem find?_matchers_conclude (panicking : Bool) (keeping : Keeping)
    (built : Except CaptureError (Replaying d)) (h : (d, keeping.name) ≠ (c, name)) :
    ((s.conclude panicking keeping built).2.matchers c).find? name = (s.matchers c).find? name := by
  cases built with
  | error e => rfl
  | ok r =>
    rw [conclude_ok]
    exact find?_matchers_keepMatcher _ h

theorem find?_matchers_run (h : step.matcherName? ≠ some (c, name)) :
    ((s.run step).2.matchers c).find? name = (s.matchers c).find? name := by
  have hne {d : Capability} {key : String} (heq : step.matcherName? = some (d, key)) :
      (d, key) ≠ (c, name) := fun hname => h (heq.trans (congrArg some hname))
  cases step with
  | finish d flavor u inner panicking keeping =>
    rw [run_finish_eq]
    exact find?_matchers_conclude panicking keeping _ (hne rfl)
  | build d flavor u inner key keeping =>
    simp only [run]
    split
    · rfl
    · exact find?_matchers_conclude false keeping _ (hne rfl)
  | evaluate expression subject keepAs =>
    simp only [run]
    split
    · rfl
    · cases keepAs with
      | none => rw [runOn_eq]
      | some key =>
        simp only [runOn_eq]
        exact find?_matchers_keepMatcher _ (hne rfl)
  | call | direct => rw [run, runOn_eq]
  | captured d name' keepAs =>
    simp only [run]
    split
    · rfl
    · split
      · rfl
      · cases keepAs <;> rfl
  | replay u key subject =>
    simp only [run]
    split
    · rfl
    · rw [runOn_eq]
  | intercept | make | same | unguard =>
    simp only [run]
    split <;> rfl
  | _ => rfl

theorem find?_standIns_run (h : step.standInName? ≠ some (c, name)) :
    ((s.run step).2.standIns c).find? name = (s.standIns c).find? name := by
  have hne {d : Capability} {key : String} (heq : step.standInName? = some (d, key)) :
      (d, key) ≠ (c, name) := fun hname => h (heq.trans (congrArg some hname))
  rw [standIns_run]
  cases step with
  | start d key | create d key =>
    exact find?_update_of_ne s.standIns
      (fun ns hname => (ns.find?_keep key name _).trans (if_neg hname)) (hne rfl)
  | drop d key =>
    exact find?_update_of_ne s.standIns
      (fun ns hname => (ns.find?_forget key name).trans (if_neg hname)) (hne rfl)
  | _ => rfl

theorem find?_matchers_runAll {later : List Step}
    (h : ∀ step ∈ later, step.matcherName? ≠ some (c, name)) :
    ((s.runAll later).2.matchers c).find? name = (s.matchers c).find? name := by
  induction later generalizing s with
  | nil => rfl
  | cons step rest ih =>
    obtain ⟨hstep, hrest⟩ := List.forall_mem_cons.1 h
    exact (ih hrest).trans (find?_matchers_run hstep)

theorem find?_standIns_runAll {later : List Step}
    (h : ∀ step ∈ later, step.standInName? ≠ some (c, name)) :
    ((s.runAll later).2.standIns c).find? name = (s.standIns c).find? name := by
  induction later generalizing s with
  | nil => rfl
  | cons step rest ih =>
    obtain ⟨hstep, hrest⟩ := List.forall_mem_cons.1 h
    exact (ih hrest).trans (find?_standIns_run hstep)

section

variable {r : Replaying c} {keeping : Keeping}

structure Built (s : Session) (keeping : Keeping) (r : Replaying c) (t : Session) : Prop where
  diagnostics : r.diagnostics = keeping.diagnostics.getD s.world.activeConfig.diagnostics
  kept : (t.matchers c).find? keeping.name = some (.criterion r)

theorem built_conclude {u : Ty} {flavor : Flavor} {inner : ValueMatcher u} {panicking : Bool}
    {o : Except CaptureError Invocation} {s t : Session}
    (h : (s.conclude panicking keeping (o.map fun i =>
      (⟨u, flavor, i, t.world.activeConfig.diagnostics, inner⟩ : Replaying d))).1 = .matcher r) :
    d = c ∧ t.Built keeping r (s.conclude panicking keeping (o.map fun i =>
      (⟨u, flavor, i, t.world.activeConfig.diagnostics, inner⟩ : Replaying d))).2 := by
  cases o with
  | error e => cases panicking <;> cases h
  | ok i =>
    simp only [Except.map, conclude_ok] at h ⊢
    cases h
    exact ⟨rfl, rfl, by simp [keepMatcher, Names.find?_keep]⟩

theorem reply_eq_of_runOn {α : Type} {subject : Subject d} {run : Target d → Traced α}
    {reply : α → Reply} (h : (s.runOn subject run reply).1 = .matcher r) : ∃ a, reply a = .matcher r := by
  simp only [runOn] at h
  cases htarget : s.target? subject with
  | none => simp [htarget] at h
  | some t =>
    cases houtcome : (run t.1).outcome with
    | error p => simp [htarget, houtcome] at h
    | ok a => exact ⟨a, by simpa [htarget, houtcome] using h⟩

theorem built_of_reply (h : (s.run step).1 = .matcher r) :
    ∃ keeping, step.keeping? = some (c, keeping) ∧ s.Built keeping r (s.run step).2 := by
  cases step with
  | finish d flavor u inner panicking keeping =>
    rw [run_finish_eq] at h ⊢
    obtain ⟨rfl, hbuilt⟩ := built_conclude h
    exact ⟨keeping, rfl, hbuilt⟩
  | build d flavor u inner key keeping =>
    simp only [run, World.build, Replaying.new_eq] at h ⊢
    cases hkey : s.invocations.find? key with
    | none => simp [hkey] at h
    | some i =>
      simp only [hkey] at h ⊢
      obtain ⟨rfl, hbuilt⟩ := built_conclude h
      exact ⟨keeping, rfl, hbuilt⟩
  | call | direct =>
    obtain ⟨_, ha⟩ := reply_eq_of_runOn h
    cases ha
  | replay u key subject =>
    simp only [run] at h
    split at h
    · cases h
    · obtain ⟨a, ha⟩ := reply_eq_of_runOn h
      cases a <;> cases ha
  | evaluate expression subject keepAs =>
    simp only [run] at h
    split at h
    · cases h
    · obtain ⟨_, ha⟩ := reply_eq_of_runOn h
      cases ha
  | captured d name keepAs =>
    simp only [run] at h
    split at h
    · cases h
    · split at h <;> cases h
  | intercept | make | same | unguard =>
    simp only [run] at h
    split at h <;> cases h
  | start | create | drop | setConfig | resetConfig | active | reset | guard | isSet => cases h

end

variable {expression : Matcher String} {subject : Subject c}

theorem resolve_runAll {later : List Step} (h : ∀ step ∈ later, step.Spares expression subject) :
    expression.resolve ((s.runAll later).2.matchers c).find? =
      expression.resolve (s.matchers c).find? :=
  Matcher.resolve_congr expression fun name hname =>
    find?_matchers_runAll fun step hstep => (h step hstep).matchers name hname

theorem target?_runAll {later : List Step} (h : ∀ step ∈ later, step.Spares expression subject) :
    (s.runAll later).2.target? subject = s.target? subject := by
  cases subject with
  | real a => rfl
  | standIn name =>
    simp only [target?]
    rw [find?_standIns_runAll fun step hstep => (h step hstep).subject name rfl]

def recorder? (s : Session) (subject : Subject c) : Option Nat := (s.target? subject).bind (·.2)

structure Evaluated (s : Session) (subject : Subject c) (t : Session) : Prop where
  world : s.world.SameBut (s.recorder? subject) t.world
  standIns : t.standIns = s.standIns
  invocations : t.invocations = s.invocations
  guards : t.guards = s.guards

theorem evaluated_runOn {α : Type} (s : Session) (subject : Subject c) (run : Target c → Traced α)
    (reply : α → Reply) : s.Evaluated subject (s.runOn subject run reply).2 := by
  simp only [runOn]
  cases htarget : s.target? subject with
  | none => exact ⟨.refl _ _, rfl, rfl, rfl⟩
  | some t =>
    refine ⟨?_, rfl, rfl, rfl⟩
    rw [recorder?, htarget, Option.bind_some]
    exact .settle _ _ _

theorem evaluated_run (s : Session) (expression : Matcher String) (subject : Subject c)
    (keepAs : Option String) :
    s.Evaluated subject (s.run (.evaluate expression subject keepAs)).2 := by
  simp only [run]
  cases expression.resolve (s.matchers c).find? with
  | error name => exact ⟨.refl _ _, rfl, rfl, rfl⟩
  | ok m =>
    have h := s.evaluated_runOn subject m.examine .evaluation
    cases keepAs with
    | none => exact h
    | some key => exact ⟨h.world, h.standIns, h.invocations, h.guards⟩

theorem fst_run_evaluate_of_calm {m : InstanceMatcher c}
    (hresolve : expression.resolve (s.matchers c).find? = .ok m) (hm : m.Calm)
    (htarget : (s.target? subject).isSome) (keepAs : Option String) :
    ∃ e, (s.run (.evaluate expression subject keepAs)).1 = .evaluation e := by
  obtain ⟨⟨target, id⟩, htarget⟩ := Option.isSome_iff_exists.1 htarget
  obtain ⟨e, he⟩ := InstanceMatcher.returns_examine hm target
  refine ⟨e, ?_⟩
  simp only [run, hresolve, runOn, htarget, he]

/-- An evaluation, and each reading of a matcher by itself, leaves alone everything but the recorder of the
stand-in that it runs on. What an evaluation replies it replies after all later steps that leave its names
alone, and unless a test double panics it comes to the three readings. A matcher stays as it was built, with
the diagnostics that were active then. -/
theorem evaluation_isolated_and_repeatable (s : Session) (expression : Matcher String)
    (subject : Subject c) :
    (∀ keepAs, s.Evaluated subject (s.run (.evaluate expression subject keepAs)).2) ∧
    (∀ (m : InstanceMatcher c) (d : Description) (target : Target c) (id : Option Nat),
      s.target? subject = some (target, id) →
      s.world.SameBut id (s.world.settle id (m.evaluate target).notes) ∧
        s.world.SameBut id (s.world.settle id (m.explain target d).notes) ∧
        s.world.SameBut id (s.world.settle id (m.assertThat target).notes)) ∧
    (∃ reply : Reply,
      (∀ later : List Step, (∀ step ∈ later, step.Spares expression subject) → ∀ keepAs,
        ((s.runAll later).2.run (.evaluate expression subject keepAs)).1 = reply) ∧
      ∀ m, expression.resolve (s.matchers c).find? = .ok m → InstanceMatcher.Calm m →
        (s.target? subject).isSome → ∃ e, reply = .evaluation e) ∧
    ∀ (step : Step) (r : Replaying c), (s.run step).1 = .matcher r →
      ∃ keeping, step.keeping? = some (c, keeping) ∧
        ∀ later : List Step, (∀ step ∈ later, step.matcherName? ≠ some (c, keeping.name)) →
          s.Built keeping r ((s.run step).2.runAll later).2 := by
  refine ⟨s.evaluated_run expression subject, fun m d target id _ => ?_, ?_, fun step r h => ?_⟩
  · exact ⟨.settle _ _ _, .settle _ _ _, .settle _ _ _⟩
  · refine ⟨(s.run (.evaluate expression subject none)).1, fun later hlater keepAs => ?_, ?_⟩
    · exact fst_run_evaluate_eq (resolve_runAll hlater) (target?_runAll hlater) keepAs none
    · exact fun m hresolve hm htarget => fst_run_evaluate_of_calm hresolve hm htarget none
  · obtain ⟨keeping, hkeeping, hbuilt⟩ := built_of_reply h
    refine ⟨keeping, hkeeping, fun later hlater => ⟨hbuilt.diagnostics, ?_⟩⟩
    exact (find?_matchers_runAll hlater).trans hbuilt.kept

theorem evaluation_isolated_and_repeatable_silenced :
    let finish : Step := .finish .person .hasValue .name (.anything "y") false ⟨none, "m"⟩
    let called := (initial.runAll [.start .person "p", .call "p" Method.getName ()]).2
    let s := (called.run finish).2
    let later : List Step := [.setConfig (some .silent) none, .call "p" Method.getAge (), .reset,
      .evaluate (.not (.criterion "m")) (.standIn (c := .person) "p") none]
    let subject : Subject .person := .real (.panicking (.message "no name"))
    let r : Replaying .person :=
      ⟨.name, .hasValue, ⟨Method.getName.member, []⟩, .detailed, .anything "y"⟩
    (∃ e : Evaluation, e.verdict.reason = some "threw <no name>" ∧
      ((s.runAll later).2.run (.evaluate (.criterion "m") subject none)).1 = .evaluation e) ∧
    ((s.runAll later).2.matchers .person).find? "m" = some (.criterion r) := by
  intro finish called s later subject r
  obtain ⟨-, -, ⟨reply, hreply, -⟩, -⟩ :=
    evaluation_isolated_and_repeatable s (.criterion "m") subject
  obtain ⟨-, -, -, hbuilt⟩ := evaluation_isolated_and_repeatable called (.criterion "m") subject
  have hnames : ∀ step ∈ later, step.matcherName? = none := by simp [later, Step.matcherName?]
  have hspares (step : Step) (hstep : step ∈ later) : step.Spares (.criterion "m") subject :=
    ⟨fun name _ => by simp [hnames step hstep], nofun⟩
  refine ⟨⟨_, ?_, (hreply later hspares none).trans (hreply [] (by simp) none).symm⟩, ?_⟩
  · rfl
  · obtain ⟨keeping, hkeeping, hkept⟩ := hbuilt finish r rfl
    cases hkeeping
    exact (hkept later fun step hstep => by simp [hnames step hstep]).kept

end Session

end Facet
