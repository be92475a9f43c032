import Facet.Session.Step
import Mathlib.Data.List.Basic

namespace Facet

namespace Names

variable {α : Type}

theorem find?_forget (ns : Names α) (name key : String) :
    (ns.forget name).find? key = if key = name then none else ns.find? key := by
  simp only [find?, forget]
  induction ns with
  | nil => simp
  | cons n ns ih =>
    obtain ⟨k, a⟩ := n
    by_cases hk : k = name
    · subst hk
      rw [List.filter_cons_of_neg (by simp), ih]
      by_cases hkey : key = k
      · simp [hkey]
      · simp [hkey, List.lookup_cons, beq_eq_false_iff_ne.2 hkey]
    · rw [List.filter_cons_of_pos (by simpa using hk), List.lookup_cons, List.lookup_cons, ih]
      by_cases hkey : key = k
      · simp [hkey, hk]
      · simp [beq_eq_false_iff_ne.2 hkey]

theorem find?_keep (ns : Names α) (name key : String) (a : α) :
    (ns.keep name a).find? key = if key = name then some a else ns.find? key := by
  have hrest := find?_forget ns name key
  simp only [find?] at hrest
  by_cases hkey : key = name
  · simp [find?, keep, hkey]
  · simp [find?, keep, List.lookup_cons, beq_eq_false_iff_ne.2 hkey, hrest, hkey]

end Names

namespace World

variable {w : World}

theorem getElem?_recorders_record (id j : Nat) (x : Except CaptureError Invocation) :
    (w.record id x).recorders[j]? =
      if j = id then (w.recorders[j]?).map fun r => { r with captured := some x }
      else w.recorders[j]? := by
  simp only [record]
  cases hr : w.recorders[id]? with
  | none =>
    by_cases hj : j = id
    · subst hj
      simp [hr]
    · simp [hj]
  | some r =>
    by_cases hj : j = id
    · subst hj
      obtain ⟨hlt, rfl⟩ := List.getElem?_eq_some_iff.1 hr
      simp [hlt]
    · simp [hj, Ne.symm hj]

@[simp] theorem slot_record (id : Nat) (x : Except CaptureError Invocation) :
    (w.record id x).slot = w.slot := by
  simp only [record]
  split <;> rfl

@[simp] theorem config_record (id : Nat) (x : Except CaptureError Invocation) :
    (w.record id x).config = w.config := by
  simp only [record]
  split <;> rfl

@[simp] theorem length_recorders_record (id : Nat) (x : Except CaptureError Invocation) :
    (w.record id x).recorders.length = w.recorders.length := by
  simp only [record]
  split <;> simp

@[simp] theorem recorders_clearSlot (w : World) : w.clearSlot.recorders = w.recorders := by
  simp only [clearSlot]
  split <;> rfl

@[simp] theorem config_clearSlot (w : World) : w.clearSlot.config = w.config := by
  simp only [clearSlot]
  split <;> rfl

@[simp] theorem slot_clearSlot (w : World) : w.clearSlot.slot = none := by
  simp only [clearSlot]
  split
  next h => exact h
  next => rfl

theorem exists_slot_of_pending {flavor : Flavor} {i : Invocation} (h : w.pending flavor = .ok i) :
    ∃ id, w.slot = some id := by
  cases hslot : w.slot with
  | none => simp [pending, hslot] at h
  | some id => exact ⟨id, rfl⟩

theorem take_of_slot {id : Nat} (flavor : Flavor) (h : w.slot = some id) :
    w.take flavor = (.ok id, w.clearSlot) := by
  simp [take, h]

/-- The slot that was read can still be emptied, so a matcher that is built is handed out. -/
theorem finish_eq (w : World) (c : Capability) (flavor : Flavor) (u : Ty) (inner : ValueMatcher u) :
    w.finish c flavor u inner =
      match (w.pending flavor).bind fun i => w.build c flavor i u inner with
      | .error e => (.error e, w)
      | .ok m => (.ok m, if w.activeConfig.resetSlotOnFinish then w.clearSlot else w) := by
  simp only [finish]
  cases hpending : w.pending flavor with
  | error e => rfl
  | ok i =>
    obtain ⟨id, hslot⟩ := exists_slot_of_pending hpending
    simp only [Except.bind, take_of_slot flavor hslot]
    cases w.build c flavor i u inner with
    | error e => rfl
    | ok m => cases w.activeConfig.resetSlotOnFinish <;> rfl

end World

namespace Session

@[simp] theorem update_self {α : Capability → Type} (f : (c : Capability) → α c) (c : Capability)
    (g : α c → α c) : update f c g c = g (f c) := by
  simp [update]

theorem update_of_ne {α : Capability → Type} (f : (c : Capability) → α c) {c d : Capability}
    (g : α c → α c) (h : c ≠ d) : update f c g d = f d := by
  simp [update, h]

theorem fst_run_evaluate_eq {s t : Session} {c : Capability} {expression : Matcher String}
    {subject : Subject c}
    (hresolve : expression.resolve (s.matchers c).find? = expression.resolve (t.matchers c).find?)
    (htarget : s.target? subject = t.target? subject) (keepAs keepAs' : Option String) :
    (s.run (.evaluate expression subject keepAs)).1 =
      (t.run (.evaluate expression subject keepAs')).1 := by
  simp only [run, hresolve]
  cases expression.resolve (t.matchers c).find? with
  | error name => rfl
  | ok m =>
    simp only [runOn, htarget]
    cases t.target? subject <;> rfl

end Session

end Facet
