import Facet.Proofs.Session.History

namespace Facet

abbrev CallProperty : Type := Capability → Except CaptureError Invocation → Prop

def CallProperty.OfMethods (P : CallProperty) : Prop :=
  ∀ {c : Capability} (m : Method c) (args : Args m.params), P c (m.capture args)

variable {P : CallProperty} {c : Capability}

def Note.Respects (P : CallProperty) (c : Capability) : Note → Prop
  | .captured x => P c x
  | .replayFailed .. => True

def Step.Respects (P : CallProperty) : Step → Prop
  | .intercept c _ member arguments => P c (Facet.intercept member arguments)
  | _ => True

/-- A call goes to a stand-in that is there, and has the property for the capability of that stand-in. -/
def Deed.Respects (P : CallProperty) (w : World) : Deed → Prop
  | .called id x => ∃ c, w.Owns id c ∧ P c x
  | _ => True

def World.Respects (P : CallProperty) (w : World) : Prop :=
  ∀ (id : Nat) (c : Capability) (x : Except CaptureError Invocation),
    w.Owns id c → w.received id = some x → P c x

theorem Method.leaves_call (hP : P.OfMethods) (m : Method c) (args : Args m.params)
    (target : Target c) : (m.call args target).Leaves (Note.Respects P c) := by
  cases target with
  | real i => simp [call, Traced.Leaves]
  | standIn => exact Traced.Leaves.note (hP m args)

theorem Invocation.leaves_replay (hP : P.OfMethods) (i : Invocation) (u : Ty) (target : Target c) :
    (i.replay u target).Leaves (Note.Respects P c) := by
  simp only [replay]
  split
  · exact .pure _
  · exact Method.leaves_call hP _ _ target

namespace ValueMatcher

variable {Q : Note → Prop} {t : Ty} (m : ValueMatcher t) (a : t.Val)

theorem leaves_test : (m.test a).Leaves Q := by
  refine Matcher.leaves_test (fun l a => ?_) m a
  cases l <;> exact .pure _

theorem leaves_explain (d : Description) : (m.explain a d).Leaves Q := by
  refine Matcher.leaves_explain (fun l a => ?_) (fun l a d => ?_) m a d
  · cases l <;> exact .pure _
  · cases l <;> exact .pure _

end ValueMatcher

namespace Replaying

variable (hP : P.OfMethods) (r : Replaying c) (target : Target c)

include hP

theorem leaves_value : (r.value target).Leaves (Note.Respects P c) := by
  refine (r.invocation.leaves_replay hP r.returns target).bind fun replayed => ?_
  cases replayed with
  | error e => exact Traced.Leaves.bind (.note trivial) fun _ => .pure _
  | ok a => exact .pure _

theorem leaves_test : (r.test target).Leaves (Note.Respects P c) := by
  refine (leaves_value hP r target).bind fun replayed => ?_
  cases replayed with
  | error e => exact .pure _
  | ok a => exact ValueMatcher.leaves_test r.inner a

theorem leaves_explain (d : Description) : (r.explain target d).Leaves (Note.Respects P c) := by
  refine (leaves_value hP r target).bind fun replayed => ?_
  cases replayed with
  | error e => exact .pure _
  | ok a =>
    refine (ValueMatcher.leaves_test r.inner a).bind fun passed => ?_
    cases passed with
    | true => exact .pure _
    | false =>
      simp only [Bool.false_eq_true, if_false]
      split
      · exact ValueMatcher.leaves_explain r.inner a d
      · exact .pure _

end Replaying

theorem InstanceMatcher.leaves_examine (hP : P.OfMethods) (m : InstanceMatcher c) (target : Target c) :
    (m.examine target).Leaves (Note.Respects P c) :=
  Matcher.leaves_examine (Replaying.leaves_test hP) (Replaying.leaves_explain hP) m target

namespace World

variable {w : World} {d : Deed} {ds : List Deed}

theorem respects_initial : initial.Respects P := by
  simp [World.Respects, Owns, initial]

theorem Respects.after (hw : w.Respects P) (hd : d.Respects P w) : (w.after d).Respects P := by
  intro id c x howns hx
  rw [received_after] at hx
  rw [owns_after_iff] at howns
  cases d with
  | called j y =>
    have hold := howns.resolve_right nofun
    by_cases hid : id = j ∧ j < w.recorders.length
    · obtain ⟨c', howns', hy⟩ := hd
      cases hold.unique (hid.1 ▸ howns')
      simp only [if_pos hid] at hx
      exact Option.some.inj hx ▸ hy
    · simp only [if_neg hid] at hx
      exact hw id c x hold hx
  | started | created | replayFailed | finished | emptied | configured =>
    exact hw id c x (howns.resolve_right fun h => Nat.ne_of_lt (lt_of_received hx) h.2) hx

end World

theorem Deed.Respects.after {w : World} {d : Deed} (h : d.Respects P w) (e : Deed) :
    d.Respects P (w.after e) := by
  cases d with
  | called id x =>
    obtain ⟨c, howns, hx⟩ := h
    exact ⟨c, howns.after e, hx⟩
  | started | created | replayFailed | finished | emptied | configured => trivial

theorem World.Respects.foldl {w : World} {ds : List Deed} (hw : w.Respects P)
    (hds : ∀ d ∈ ds, d.Respects P w) : (ds.foldl World.after w).Respects P := by
  induction ds generalizing w with
  | nil => exact hw
  | cons d ds ih =>
    obtain ⟨hd, hrest⟩ := List.forall_mem_cons.1 hds
    exact ih (hw.after hd) fun e he => (hrest e he).after d

namespace Session

variable {s : Session}

def WellNamed (s : Session) : Prop :=
  ∀ (c : Capability) (name : String) (id : Nat),
    (s.standIns c).find? name = some id → s.world.Owns id c

theorem wellNamed_initial : initial.WellNamed := by
  simp [WellNamed, initial, Names.find?]

theorem find?_update_keep {f : (c : Capability) → Names Nat} {c d : Capability} {name key : String}
    {n id : Nat} (h : (update f c (·.keep name n) d).find? key = some id) :
    (c = d ∧ id = n) ∨ (f d).find? key = some id := by
  by_cases hc : c = d
  · subst hc
    rw [update_self, Names.find?_keep] at h
    by_cases hkey : key = name
    · simp only [hkey, if_true, Option.some.injEq] at h
      exact .inl ⟨rfl, h.symm⟩
    · exact .inr (by simpa only [hkey, if_false] using h)
  · rw [update_of_ne _ _ hc] at h
    exact .inr h

theorem find?_update_forget {f : (c : Capability) → Names Nat} {c d : Capability} {name key : String}
    {id : Nat} (h : (update f c (·.forget name) d).find? key = some id) : (f d).find? key = some id := by
  by_cases hc : c = d
  · subst hc
    rw [update_self, Names.find?_forget] at h
    by_cases hkey : key = name
    · simp [hkey] at h
    · simpa only [hkey, if_false] using h
  · rwa [update_of_ne _ _ hc] at h

theorem WellNamed.run (hs : s.WellNamed) (step : Step) : (s.run step).2.WellNamed := by
  intro c name id h
  rw [standIns_run] at h
  rw [world_run]
  have hold (h : (s.standIns c).find? name = some id) :
      ((s.deeds step).foldl World.after s.world).Owns id c := (hs c name id h).foldl _
  cases step with
  | start c' name' | create c' name' =>
    rcases find?_update_keep h with ⟨rfl, rfl⟩ | h
    · simp [deeds, World.owns_after_iff, Deed.new?]
    · exact hold h
  | drop c' name' => exact hold (find?_update_forget h)
  | _ => exact hold h

theorem WellNamed.runAll (hs : s.WellNamed) (steps : List Step) : (s.runAll steps).2.WellNamed := by
  induction steps generalizing s with
  | nil => exact hs
  | cons step rest ih => exact ih (hs.run step)

theorem target?_eq_some {subject : Subject c} {target : Target c} {id : Nat} (hs : s.WellNamed)
    (h : s.target? subject = some (target, some id)) : s.world.Owns id c := by
  cases subject with
  | real i => cases h
  | standIn name =>
    obtain ⟨j, hj, heq⟩ := Option.map_eq_some_iff.1 h
    cases heq
    exact hs c name _ hj

theorem respects_deedsOn {α : Type} (hs : s.WellNamed) {subject : Subject c}
    {run : Target c → Traced α} (hrun : ∀ target, (run target).Leaves (Note.Respects P c)) :
    ∀ d ∈ s.deedsOn subject run, d.Respects P s.world := by
  intro d hd
  cases ht : s.target? subject with
  | none => simp [deedsOn, ht] at hd
  | some t =>
    obtain ⟨target, id⟩ := t
    simp only [deedsOn, ht, List.mem_filterMap] at hd
    obtain ⟨note, hnote, hdeed⟩ := hd
    have hrespects := hrun target note hnote
    cases note with
    | captured x =>
      obtain ⟨j, rfl, rfl⟩ := Option.map_eq_some_iff.1 hdeed
      exact ⟨c, target?_eq_some hs ht, hrespects⟩
    | replayFailed i e =>
      cases hdeed
      trivial

theorem respects_deeds (hs : s.WellNamed) (hP : P.OfMethods) {step : Step} (hstep : step.Respects P) :
    ∀ d ∈ s.deeds step, d.Respects P s.world := by
  cases step with
  | call name m args | direct subject m args => exact respects_deedsOn hs (m.leaves_call hP args)
  | intercept c name member arguments =>
    simp only [deeds]
    cases hname : (s.standIns c).find? name with
    | none => simp
    | some id => simpa using ⟨c, hs c name id hname, hstep⟩
  | finish =>
    simp only [deeds]
    split <;> simp [Deed.Respects]
  | replay u name subject =>
    simp only [deeds]
    split
    · simp
    · exact respects_deedsOn hs (Invocation.leaves_replay hP _ u)
  | evaluate expression subject keepAs =>
    simp only [deeds]
    split
    · simp
    · exact respects_deedsOn hs (InstanceMatcher.leaves_examine hP _)
  | unguard =>
    simp only [deeds]
    split <;> simp [Deed.Respects]
  | _ => simp [deeds, Deed.Respects]

theorem lt_of_called (hs : s.WellNamed) (hP : P.OfMethods) {step : Step} (hstep : step.Respects P) :
    ∀ d ∈ s.deeds step, ∀ id x, d = .called id x → id < s.world.recorders.length := by
  rintro d hd id x rfl
  obtain ⟨c, howns, -⟩ := respects_deeds hs hP hstep _ hd
  exact howns.lt

theorem WellNamed.respects_run (hs : s.WellNamed) (hP : P.OfMethods) {step : Step}
    (hstep : step.Respects P) (hw : s.world.Respects P) : (s.run step).2.world.Respects P := by
  rw [world_run]
  exact hw.foldl (respects_deeds hs hP hstep)

theorem WellNamed.respects_runAll (hs : s.WellNamed) (hP : P.OfMethods) {steps : List Step}
    (hsteps : ∀ step ∈ steps, step.Respects P) (hw : s.world.Respects P) :
    (s.runAll steps).2.world.Respects P := by
  induction steps generalizing s with
  | nil => exact hw
  | cons step rest ih =>
    obtain ⟨hstep, hrest⟩ := List.forall_mem_cons.1 hsteps
    exact ih (hs.run step) hrest (hs.respects_run hP hstep hw)

end Session

end Facet
