import Facet.Invocation.Basic
import Facet.Proofs.Value.Expressible

namespace Facet

open Number

namespace Argument

theorem captureAs_eq_ok {t u : Ty} {a : t.Val} {captured : Argument}
    (h : captureAs t u a = .ok captured) :
    ∃ b, t.encode a = .ok captured.value ∧ captured.rendering = t.render a ∧
      u.decode captured.value = .ok b ∧
      (u.render b = t.render a ∨ captured.value.hasNull = false) := by
  simp only [captureAs, capture] at h
  cases hj : t.encode a with
  | error e => simp [hj, Except.map] at h
  | ok j =>
    simp only [hj, Except.map] at h
    cases hb : u.decode j with
    | error e => simp [hb] at h
    | ok b =>
      simp only [hb] at h
      cases hk : u.encode b with
      | error e => simp [hk] at h
      | ok k =>
        simp only [hk] at h
        split at h
        next haccept =>
          cases h
          exact ⟨b, rfl, rfl, hb, haccept.imp id And.right⟩
        next => cases h

end Argument

namespace Ty

theorem debug_eq_of_render_eq {t : Ty} {a b : t.Val} (h : t.render a = t.render b) :
    t.debug a = t.debug b := by
  simp only [render] at h
  split at h
  · exact h
  · simpa [bracket, ← String.toList_inj] using h

end Ty

namespace Argument

theorem decode_of_captureAs {t : Ty} {a : t.Val} {captured : Argument}
    (h : captureAs t t a = .ok captured) :
    t.Reads a (t.replayed a) ∧ t.decode captured.value = .ok (t.replayed a) := by
  obtain ⟨b, hj, -, hb, haccept⟩ := captureAs_eq_ok h
  have hread := t.reads_of_decode hj hb
  have hb' : b = t.replayed a := by
    rcases haccept with hrender | hnull
    · exact (t.aligned_debug hread).eq (Ty.debug_eq_of_render_eq hrender).symm
    · exact t.eq_replayed_of_hasNull hread hj hnull
  exact hb' ▸ ⟨hread, hb⟩

/-- A replay passes a value that is equal to the captured one exactly if every part of it survives. -/
theorem eqv_decode_iff_survives {t : Ty} {a : t.Val} {captured : Argument}
    (h : captureAs t t a = .ok captured) :
    ∃ b, t.decode captured.value = .ok b ∧ (t.eqv b a ↔ t.Survives a) := by
  obtain ⟨hread, hdecode⟩ := decode_of_captureAs h
  exact ⟨t.replayed a, hdecode, t.eqv_replayed_iff hread⟩

def secretive : Masked := ⟨⟨7, by decide⟩, some "x"⟩

def secretiveCaptured : Argument :=
  ⟨.object [("note", .string "x")], "<Masked \x7b secret: 7, note: Some(\"x\") \x7d>"⟩

theorem captureAs_secretive : captureAs .masked .masked secretive = .ok secretiveCaptured := rfl

theorem eqv_decode_secretive_iff :
    captureAs .masked .masked secretive = .ok secretiveCaptured ∧
      ∃ b, Ty.masked.decode secretiveCaptured.value = .ok b ∧
        (Ty.masked.eqv b secretive ↔ Ty.masked.Survives secretive) :=
  ⟨captureAs_secretive, eqv_decode_iff_survives captureAs_secretive⟩

theorem exists_captured_not_eqv :
    ∃ (a : Masked) (captured : Argument), captureAs .masked .masked a = .ok captured ∧
      ∀ b, Ty.masked.decode captured.value = .ok b → Ty.masked.eqv b a = false := by
  refine ⟨secretive, secretiveCaptured, captureAs_secretive, fun b hb => ?_⟩
  have hread : b = .ofNote secretive.note := (Except.ok.inj hb).symm
  subst hread
  decide

end Argument

end Facet
