import Facet.Proofs.Invocation.Replay
import Facet.Proofs.Value.Legible
import Facet.Proofs.Value.Steady

namespace Facet

open Number

namespace Argument

theorem captureAs_replayed {t : Ty} (ht : t.Steady) {a : t.Val} {captured : Argument}
    (h : captureAs t t a = .ok captured) :
    captureAs t t (t.replayed a) = .ok ⟨captured.value, t.render (t.replayed a)⟩ := by
  obtain ⟨-, hencode, -⟩ := captureAs_eq_ok h
  have hdecode := (decode_of_captureAs h).2
  have hagain : capture t (t.replayed a) = .ok ⟨captured.value, t.render (t.replayed a)⟩ := by
    rw [capture, Ty.encode_replayed ht, hencode]
    rfl
  simp [captureAs, hagain, hdecode]

theorem captureAs_drift_ne_ok (a : Drift) (captured : Argument) :
    captureAs .drift .drift a ≠ .ok captured := by
  have hdecode : Ty.drift.decode (.integer (successor a.val).val) = .ok ⟨successor a.val⟩ := by
    simp [Ty.decode, Json.asWord, Except.map]
  have hrender : Ty.drift.render ⟨successor a.val⟩ ≠ Ty.drift.render a := by
    intro h
    have hvalue := (Ty.legible_render (t := .drift) rfl).eq_of_eq h
    exact Ty.successor_ne a.val (congrArg Drift.val hvalue)
  have hencode : (successor (successor a.val)).val ≠ (successor a.val).val := by
    intro h
    exact Ty.successor_ne (successor a.val) (Word.ext h)
  simp only [captureAs, capture, Ty.encode, Except.map, hdecode, hrender, eqv, Json.eqv,
    beq_iff_eq, hencode, false_and, or_false, if_false]
  intro h
  cases h

end Argument

theorem Captures.again {ts : List Ty} (hts : ∀ t ∈ ts, t.Steady ∨ t = .drift) {args : Args ts}
    {as : List Argument} (h : Captures ts args as) :
    ∃ bs : List Argument, Captures ts (replayedArgs ts args) bs ∧
      bs.map Argument.value = as.map Argument.value := by
  induction h with
  | nil => exact ⟨[], .nil, rfl⟩
  | @cons t ts a rest captured as hfirst _ ih =>
    obtain ⟨ht, hts⟩ := List.forall_mem_cons.1 hts
    obtain ⟨bs, hbs, hvalues⟩ := ih hts
    rcases ht with ht | rfl
    · refine ⟨⟨captured.value, t.render (t.replayed a)⟩ :: bs, ?_, ?_⟩
      · exact .cons (Argument.captureAs_replayed ht hfirst) hbs
      · rw [List.map_cons, List.map_cons, hvalues]
    · -- The one type that is not steady here is never captured.
      exact absurd hfirst (Argument.captureAs_drift_ne_ok a captured)

theorem Captures.value_eqv_self {ts : List Ty} {args : Args ts} {as : List Argument}
    (h : Captures ts args as) : ∀ a ∈ as, a.value.eqv a.value := by
  induction h with
  | nil => simp
  | cons hfirst _ ih =>
    obtain ⟨-, hencode, -⟩ := Argument.captureAs_eq_ok hfirst
    exact List.forall_mem_cons.2 ⟨Ty.eqv_self_of_encode hencode, ih⟩

theorem eqvList_of_values_eq {as bs : List Argument} (hvalues : bs.map Argument.value = as.map Argument.value)
    (has : ∀ a ∈ as, a.value.eqv a.value) : eqvList Argument.eqv bs as := by
  induction as generalizing bs with
  | nil =>
    obtain rfl := List.map_eq_nil_iff.1 hvalues
    rfl
  | cons a as ih =>
    obtain ⟨b, bs, rfl, hvalue, hrest⟩ := List.map_eq_cons_iff.1 hvalues
    obtain ⟨ha, has⟩ := List.forall_mem_cons.1 has
    rw [eqvList, Argument.eqv, hvalue, ha, ih hrest has]
    rfl

namespace Method

variable {c : Capability} {m : Method c} {args : Args m.params} {i j : Invocation}

/-- Without the conversions that leave something else behind each time, what is replayed is steady. -/
theorem steady_or_drift (htrunc : .trunc ∉ m.params) (hveiled : .veiled ∉ m.params) :
    ∀ t ∈ m.params, t.Steady ∨ t = .drift := by
  revert htrunc hveiled
  cases m <;> decide

structure Recaptures (m : Method c) (i j : Invocation) : Prop where
  captured : ∃ args, m.capture args = .ok j
  values : j.arguments.map Argument.value = i.arguments.map Argument.value

theorem Recaptures.refl (h : m.capture args = .ok i) : m.Recaptures i i := ⟨⟨args, h⟩, rfl⟩

theorem Recaptures.eqv (h : m.capture args = .ok i) (hj : m.Recaptures i j) : j.eqv i := by
  obtain ⟨hmember, hargs⟩ := capture_eq_ok_iff_captures.1 h
  obtain ⟨args', hcaptured⟩ := hj.captured
  obtain ⟨hmember', -⟩ := capture_eq_ok_iff_captures.1 hcaptured
  have heqv := eqvList_of_values_eq hj.values (hargs.value_eqv_self)
  rw [Invocation.eqv, hmember, hmember', heqv, beq_self_eq_true, Bool.and_self]

theorem Recaptures.replay (htrunc : .trunc ∉ m.params) (hveiled : .veiled ∉ m.params)
    (hj : m.Recaptures i j) :
    ∃ k, j.replay m.returns (.standIn : Target c) =
        ⟨.ok (.ok m.returns.default), [.captured (.ok k)]⟩ ∧ m.Recaptures i k := by
  obtain ⟨args, hcaptured⟩ := hj.captured
  obtain ⟨hmember, hargs⟩ := capture_eq_ok_iff_captures.1 hcaptured
  obtain ⟨as, has, hvalues⟩ := hargs.again (steady_or_drift htrunc hveiled)
  have hagain : m.capture (replayedArgs m.params args) = .ok ⟨m.member, as⟩ :=
    capture_eq_ok_iff_captures.2 ⟨rfl, has⟩
  refine ⟨⟨m.member, as⟩, ?_, ⟨_, hagain⟩, hvalues.trans hj.values⟩
  rw [Invocation.replay_of_capture .standIn hcaptured]
  simp only [call, hagain]
  rfl

end Method

end Facet
