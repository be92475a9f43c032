import Facet.Invocation.Replay
import Facet.Proofs.Invocation.Capture

namespace Facet

theorem collectArguments_eq_ok_iff {member : Member} {index : Nat}
    {xs : List (Except Refusal Argument)} {as : List Argument} :
    collectArguments member index xs = .ok as ↔ xs = as.map .ok := by
  induction xs generalizing index as with
  | nil => cases as <;> simp [collectArguments]
  | cons x xs ih =>
    cases x with
    | error refusal => cases as <;> simp [collectArguments]
    | ok a =>
      simp only [collectArguments, Except.map_eq_ok_iff, ih]
      cases as with
      | nil => simp
      | cons b bs => simp [and_comm, eq_comm]

structure FirstRefused (xs : List (Except Refusal Argument)) (k : Nat) (refusal : Refusal) : Prop where
  refused : xs[k]? = some (.error refusal)
  before : ∀ j < k, ∃ a, xs[j]? = some (.ok a)

theorem firstRefused_cons_ok {a : Argument} {xs : List (Except Refusal Argument)} {k : Nat}
    {refusal : Refusal} (h : FirstRefused xs k refusal) :
    FirstRefused (.ok a :: xs) (k + 1) refusal where
  refused := h.refused
  before
    | 0, _ => ⟨a, rfl⟩
    | j + 1, hj => h.before j (by omega)

theorem FirstRefused.unique {xs : List (Except Refusal Argument)} {k l : Nat} {r s : Refusal}
    (h : FirstRefused xs k r) (h' : FirstRefused xs l s) : k = l ∧ r = s := by
  have hkl : k = l := by
    rcases Nat.lt_trichotomy k l with hlt | heq | hlt
    · obtain ⟨a, ha⟩ := h'.before k hlt
      cases ha.symm.trans h.refused
    · exact heq
    · obtain ⟨a, ha⟩ := h.before l hlt
      cases ha.symm.trans h'.refused
  subst hkl
  cases h.refused.symm.trans h'.refused
  exact ⟨rfl, rfl⟩

theorem FirstRefused.not_map_ok {as : List Argument} {k : Nat} {refusal : Refusal} :
    ¬ FirstRefused (as.map .ok) k refusal := by
  intro h
  have hrefused := h.refused
  rw [List.getElem?_map] at hrefused
  cases hget : as[k]? <;> simp [hget] at hrefused

theorem exists_firstRefused {member : Member} {index : Nat} {xs : List (Except Refusal Argument)}
    {e : CaptureError} (h : collectArguments member index xs = .error e) :
    ∃ k refusal, FirstRefused xs k refusal ∧ e = .capture member (index + k) refusal := by
  induction xs generalizing index e with
  | nil => cases h
  | cons x xs ih =>
    cases x with
    | error refusal =>
      cases h
      exact ⟨0, refusal, ⟨rfl, fun j hj => absurd hj (Nat.not_lt_zero j)⟩, rfl⟩
    | ok a =>
      cases hrest : collectArguments member (index + 1) xs with
      | ok as => simp [collectArguments, hrest, Except.map] at h
      | error e' =>
        obtain ⟨k, refusal, hk, rfl⟩ := ih hrest
        simp only [collectArguments, hrest, Except.map] at h
        exact ⟨k + 1, refusal, firstRefused_cons_ok hk, by rw [← Except.error.inj h]; congr 1; omega⟩

@[simp] theorem length_captureArgs (ts : List Ty) (args : Args ts) :
    (captureArgs ts args).length = ts.length := by
  induction ts with
  | nil => rfl
  | cons t ts ih => exact congrArg (· + 1) (ih args.2)

inductive Captures : (ts : List Ty) → Args ts → List Argument → Prop
  | nil : Captures [] () []
  | cons {t : Ty} {ts : List Ty} {a : t.Val} {rest : Args ts} {captured : Argument}
      {as : List Argument} :
    Argument.captureAs t t a = .ok captured → Captures ts rest as →
    Captures (t :: ts) (a, rest) (captured :: as)

theorem captureArgs_eq_iff {ts : List Ty} {args : Args ts} {as : List Argument} :
    captureArgs ts args = as.map .ok ↔ Captures ts args as := by
  constructor
  · intro h
    induction ts generalizing as with
    | nil =>
      cases as with
      | nil => exact .nil
      | cons a as => cases h
    | cons t ts ih =>
      cases as with
      | nil => cases h
      | cons captured as =>
        obtain ⟨hfirst, hrest⟩ := List.cons.inj h
        exact .cons hfirst (ih hrest)
  · intro h
    induction h with
    | nil => rfl
    | cons hfirst _ ih => rw [captureArgs, hfirst, ih, List.map_cons]

namespace Method

variable {c : Capability} {m : Method c} {args : Args m.params}

theorem arity_member (m : Method c) : m.member.arity = m.params.length := by
  simp [member, Member.arity]

theorem capture_eq_ok_iff {i : Invocation} :
    m.capture args = .ok i ↔
      i.member = m.member ∧ captureArgs m.params args = i.arguments.map .ok := by
  simp only [capture, intercept]
  cases hcollect : collectArguments m.member 0 (captureArgs m.params args) with
  | error e =>
    refine ⟨nofun, fun h => ?_⟩
    rw [collectArguments_eq_ok_iff.2 h.2] at hcollect
    cases hcollect
  | ok as =>
    have hargs := collectArguments_eq_ok_iff.1 hcollect
    have hlength : as.length = m.member.arity := by
      rw [arity_member, ← length_captureArgs m.params args, hargs, List.length_map]
    simp only [Invocation.new, hlength, if_true, hargs]
    constructor
    · intro h
      cases h
      exact ⟨rfl, rfl⟩
    · rintro ⟨hmember, has⟩
      have : as = i.arguments := List.map_injective_iff.2 (fun _ _ => Except.ok.inj) has
      rw [← hmember, this]

theorem capture_eq_ok_iff_captures {i : Invocation} :
    m.capture args = .ok i ↔ i.member = m.member ∧ Captures m.params args i.arguments :=
  capture_eq_ok_iff.trans (and_congr_right fun _ => captureArgs_eq_iff)

theorem exists_firstRefused_of_capture {e : CaptureError} (h : m.capture args = .error e) :
    ∃ k refusal, FirstRefused (captureArgs m.params args) k refusal ∧
      e = .capture m.member k refusal := by
  cases hcollect : collectArguments m.member 0 (captureArgs m.params args) with
  | error e' =>
    obtain ⟨k, refusal, hk, rfl⟩ := exists_firstRefused hcollect
    simp only [capture, intercept, hcollect, Nat.zero_add] at h
    exact ⟨k, refusal, hk, (Except.error.inj h).symm⟩
  | ok as =>
    have hok : m.capture args = .ok ⟨m.member, as⟩ :=
      capture_eq_ok_iff.2 ⟨rfl, collectArguments_eq_ok_iff.1 hcollect⟩
    cases hok.symm.trans h

theorem capture_eq_error_iff {e : CaptureError} :
    m.capture args = .error e ↔
      ∃ k refusal, FirstRefused (captureArgs m.params args) k refusal ∧
        e = .capture m.member k refusal := by
  refine ⟨exists_firstRefused_of_capture, ?_⟩
  rintro ⟨k, refusal, hk, rfl⟩
  cases hcapture : m.capture args with
  | ok i =>
    rw [(capture_eq_ok_iff.1 hcapture).2] at hk
    exact absurd hk FirstRefused.not_map_ok
  | error e =>
    obtain ⟨l, refusal', hl, rfl⟩ := exists_firstRefused_of_capture hcapture
    obtain ⟨rfl, rfl⟩ := hl.unique hk
    rfl

end Method

def replayedArgs : (ts : List Ty) → Args ts → Args ts
  | [], () => ()
  | t :: ts, (a, rest) => (t.replayed a, replayedArgs ts rest)

theorem Captures.decodeArgs_eq {ts : List Ty} {args : Args ts} {as : List Argument}
    (h : Captures ts args as) (index : Nat) : decodeArgs ts as index = .ok (replayedArgs ts args) := by
  induction h generalizing index with
  | nil => rfl
  | cons hfirst _ ih =>
    simp only [decodeArgs, (Argument.decode_of_captureAs hfirst).2, ih, replayedArgs]

namespace Invocation

variable {c : Capability} {i : Invocation}

theorem resolve_of_capture {m : Method c} {args : Args m.params} (h : m.capture args = .ok i) :
    i.resolve c = .ok ⟨m, replayedArgs m.params args⟩ := by
  obtain ⟨hmember, hargs⟩ := Method.capture_eq_ok_iff_captures.1 h
  have hname : i.member.name = m.name := congrArg Member.name hmember
  simp only [resolve, hname, Method.ofName?_name, hargs.decodeArgs_eq]

@[simp] theorem cast_self (i : Invocation) (t : Ty) (a : t.Val) : i.cast t t a = .ok a := by
  simp [cast]

/-- The replay of a capture calls the captured method; a panic of the method is an error of the replay. -/
theorem replay_of_capture {m : Method c} {args : Args m.params} (target : Target c)
    (h : m.capture args = .ok i) :
    i.replay m.returns target =
      ⟨.ok ((m.call (replayedArgs m.params args) target).outcome.mapError .panicked),
        (m.call (replayedArgs m.params args) target).notes⟩ := by
  simp only [replay, resolve_of_capture h, cast_self]
  cases (m.call (replayedArgs m.params args) target).outcome <;> rfl

end Invocation

end Facet
