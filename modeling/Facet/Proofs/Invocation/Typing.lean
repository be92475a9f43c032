import Facet.Proofs.Invocation.Replay

namespace Facet

variable {c : Capability}

namespace Invocation

def Saturated (i : Invocation) : Prop := i.arguments.length = i.member.arity

theorem saturated_of_new {member : Member} {as : List Argument} {i : Invocation}
    (h : new member as = .ok i) : i.Saturated := by
  simp only [new] at h
  split at h
  next hlength =>
    cases h
    exact hlength
  next => cases h

theorem saturated_of_intercept {member : Member} {xs : List (Except Refusal Argument)} {i : Invocation}
    (h : intercept member xs = .ok i) : i.Saturated := by
  simp only [intercept] at h
  split at h
  · cases h
  · exact saturated_of_new h

end Invocation

/-- The invocation is a call of the method: the member is the method as it is declared, and each argument
reads as a value of the parameter type at its place. -/
structure Method.Types (m : Method c) (i : Invocation) : Prop where
  member_eq : i.member = m.member
  decodes : List.Forall₂ (fun t a => ∃ x, t.decode a.value = .ok x) m.params i.arguments

theorem Captures.decodes {ts : List Ty} {args : Args ts} {as : List Argument} (h : Captures ts args as) :
    List.Forall₂ (fun t a => ∃ x, t.decode a.value = .ok x) ts as := by
  induction h with
  | nil => exact .nil
  | cons hfirst _ ih => exact .cons ⟨_, (Argument.decode_of_captureAs hfirst).2⟩ ih

theorem Method.types_of_capture {m : Method c} {args : Args m.params} {i : Invocation}
    (h : m.capture args = .ok i) : m.Types i := by
  obtain ⟨hmember, hargs⟩ := capture_eq_ok_iff_captures.1 h
  exact ⟨hmember, hargs.decodes⟩

end Facet
