import Facet.Proofs.Invocation.Replay

namespace Facet

structure Call where
  member : Member
  arguments : List (Except Refusal Argument)

def Method.asCall {c : Capability} (m : Method c) (args : Args m.params) : Call :=
  ⟨m.member, captureArgs m.params args⟩

namespace Call

def outcome (k : Call) : Except CaptureError Invocation := intercept k.member k.arguments

/-- What is remembered of a call. A refused argument counts even if the number of arguments is wrong too. -/
inductive Remembered (k : Call) : Except CaptureError Invocation → Prop
  | refused {n : Nat} {refusal : Refusal} :
    FirstRefused k.arguments n refusal → Remembered k (.error (.capture k.member n refusal))
  | miscounted {as : List Argument} :
    k.arguments = as.map .ok → as.length ≠ k.member.arity →
    Remembered k (.error (.arityMismatch k.member as.length))
  | held {as : List Argument} :
    k.arguments = as.map .ok → as.length = k.member.arity → Remembered k (.ok ⟨k.member, as⟩)

variable {k : Call} {o : Except CaptureError Invocation}

theorem outcome_of_firstRefused {n : Nat} {refusal : Refusal} (h : FirstRefused k.arguments n refusal) :
    k.outcome = .error (.capture k.member n refusal) := by
  simp only [outcome, intercept]
  cases hcollect : collectArguments k.member 0 k.arguments with
  | ok as =>
    rw [collectArguments_eq_ok_iff.1 hcollect] at h
    exact absurd h FirstRefused.not_map_ok
  | error e =>
    obtain ⟨l, refusal', hl, rfl⟩ := exists_firstRefused hcollect
    obtain ⟨rfl, rfl⟩ := hl.unique h
    rw [Nat.zero_add]

theorem outcome_of_captured {as : List Argument} (h : k.arguments = as.map .ok) :
    k.outcome = Invocation.new k.member as := by
  simp only [outcome, intercept, collectArguments_eq_ok_iff.2 h]

theorem remembered_outcome (k : Call) : k.Remembered k.outcome := by
  cases hcollect : collectArguments k.member 0 k.arguments with
  | error e =>
    obtain ⟨n, refusal, hn, -⟩ := exists_firstRefused hcollect
    rw [outcome_of_firstRefused hn]
    exact .refused hn
  | ok as =>
    have hargs := collectArguments_eq_ok_iff.1 hcollect
    rw [outcome_of_captured hargs, Invocation.new]
    split
    next hcount => exact .held hargs hcount
    next hcount => exact .miscounted hargs hcount

theorem remembered_iff : k.Remembered o ↔ o = k.outcome := by
  constructor
  · intro h
    cases h with
    | refused hn => exact (outcome_of_firstRefused hn).symm
    | miscounted hargs hcount => rw [outcome_of_captured hargs, Invocation.new, if_neg hcount]
    | held hargs hcount => rw [outcome_of_captured hargs, Invocation.new, if_pos hcount]
  · rintro rfl
    exact k.remembered_outcome

theorem outcome_asCall_ne_arityMismatch {c : Capability} (m : Method c) (args : Args m.params)
    (member : Member) (supplied : Nat) :
    (m.asCall args).outcome ≠ .error (.arityMismatch member supplied) := by
  intro h
  have hcapture : m.capture args = .error (.arityMismatch member supplied) := h
  obtain ⟨n, refusal, -, herror⟩ := Method.exists_firstRefused_of_capture hcapture
  cases herror

end Call

end Facet
