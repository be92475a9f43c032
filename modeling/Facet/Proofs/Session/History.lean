import Facet.Proofs.Session.Deed

namespace Facet

def Deed.new? : Deed → Option Capability
  | .started c | .created c => some c
  | _ => none

def Deed.lasts : Deed → Bool
  | .replayFailed .. => false
  | _ => true

abbrev History : Type := List Deed

namespace History

def made (h : History) : Nat := h.countP (·.new?.isSome)

def configAfter (current : Option Config) : Deed → Option Config
  | .configured config => config
  | _ => current

def config (h : History) : Config := (h.foldl configAfter none).getD .default

/-- Whether the deed, done after this history, leaves no earlier start pending. -/
def Ends (h : History) : Deed → Prop
  | .started _ | .emptied => True
  | .finished => (config h).resetSlotOnFinish
  | _ => False

/-- The stand-in `id` for the capability was started, and nothing since has ended that. -/
def Pending (h : History) (c : Capability) (id : Nat) : Prop :=
  ∃ before after, h = before ++ .started c :: after ∧ id = made before ∧
    ∀ mid d rest, after = mid ++ d :: rest → ¬ Ends (before ++ .started c :: mid) d

/-- The last call that the stand-in `id` received came to this. -/
def LastCall (h : History) (id : Nat) (x : Except CaptureError Invocation) : Prop :=
  ∃ before after, h = before ++ .called id x :: after ∧ ∀ y, .called id y ∉ after

variable {h : History} {d : Deed} {c : Capability} {id : Nat} {x : Except CaptureError Invocation}

theorem snoc_eq_append_cons_iff {α : Type} {xs before after : List α} {a b : α} :
    xs ++ [a] = before ++ b :: after ↔
      (xs = before ∧ a = b ∧ after = []) ∨ ∃ mid, after = mid ++ [a] ∧ xs = before ++ b :: mid := by
  constructor
  · intro heq
    rcases List.eq_nil_or_concat' after with rfl | ⟨mid, z, rfl⟩
    · obtain ⟨rfl, hab⟩ := List.append_inj' heq rfl
      exact .inl ⟨rfl, List.singleton_inj.1 hab, rfl⟩
    · rw [← List.cons_append, ← List.append_assoc] at heq
      obtain ⟨rfl, haz⟩ := List.append_inj' heq rfl
      exact .inr ⟨mid, by rw [List.singleton_inj.1 haz], rfl⟩
  · rintro (⟨rfl, rfl, rfl⟩ | ⟨mid, rfl, rfl⟩)
    · rfl
    · simp

theorem made_snoc : made (h ++ [d]) = made h + if d.new?.isSome then 1 else 0 := by
  simp [made, List.countP_append, List.countP_singleton]

theorem pending_snoc :
    Pending (h ++ [d]) c id ↔ (d = .started c ∧ id = made h) ∨ (¬ Ends h d ∧ Pending h c id) := by
  constructor
  · rintro ⟨before, after, heq, hid, hends⟩
    rcases snoc_eq_append_cons_iff.1 heq with ⟨rfl, rfl, rfl⟩ | ⟨mid, rfl, rfl⟩
    · exact .inl ⟨rfl, hid⟩
    · refine .inr ⟨hends mid d [] rfl, before, mid, rfl, hid, fun mid' d' rest heq' => ?_⟩
      exact hends mid' d' (rest ++ [d]) (by simp [heq'])
  · rintro (⟨rfl, rfl⟩ | ⟨hd, before, after, rfl, rfl, hends⟩)
    · exact ⟨h, [], rfl, rfl, by simp⟩
    · refine ⟨before, after ++ [d], by simp, rfl, fun mid d' rest heq => ?_⟩
      rcases snoc_eq_append_cons_iff.1 heq with ⟨rfl, rfl, rfl⟩ | ⟨rest', rfl, rfl⟩
      · exact hd
      · exact hends mid d' rest' rfl

theorem lastCall_snoc :
    LastCall (h ++ [d]) id x ↔ d = .called id x ∨ ((∀ y, d ≠ .called id y) ∧ LastCall h id x) := by
  constructor
  · rintro ⟨before, after, heq, hnone⟩
    rcases snoc_eq_append_cons_iff.1 heq with ⟨rfl, rfl, rfl⟩ | ⟨mid, rfl, rfl⟩
    · exact .inl rfl
    · exact .inr ⟨fun y hd => hnone y (by simp [hd]), before, mid, rfl, fun y hy => hnone y (by simp [hy])⟩
  · rintro (rfl | ⟨hd, before, after, rfl, hnone⟩)
    · exact ⟨h, [], rfl, by simp⟩
    · exact ⟨before, after ++ [d], by simp, fun y => by simp [hnone y, (hd y).symm]⟩

end History

namespace World

variable {w : World} {d : Deed} {c : Capability} {id : Nat}

theorem length_recorders_after (w : World) (d : Deed) :
    (w.after d).recorders.length = w.recorders.length + if d.new?.isSome then 1 else 0 := by
  cases d with
  | started | created => simp [after, start, create, emit, Deed.new?]
  | called id x => simp [after, Deed.new?]
  | configured config => cases config <;> rfl
  | finished =>
    simp only [after]
    split <;> simp [Deed.new?]
  | replayFailed | emptied => rfl

theorem config_after (w : World) (d : Deed) :
    (w.after d).config = History.configAfter w.config d := by
  cases d with
  | called id x => simp [after, History.configAfter]
  | configured config => cases config <;> rfl
  | finished =>
    simp only [after]
    split <;> simp [History.configAfter]
  | started | created | replayFailed | emptied => rfl

theorem slot_after (w : World) (d : Deed) :
    (w.after d).slot = match d with
      | .started _ => some w.recorders.length
      | .emptied => none
      | .finished => if w.activeConfig.resetSlotOnFinish then none else w.slot
      | _ => w.slot := by
  cases d with
  | called id x => simp [after]
  | configured config => cases config <;> rfl
  | finished =>
    simp only [after]
    split <;> simp
  | started | created | replayFailed | emptied => rfl

theorem getElem?_recorders_after (w : World) (d : Deed) (id : Nat) :
    (w.after d).recorders[id]? = match d with
      | .started c | .created c =>
        if id = w.recorders.length then some (.fresh c) else w.recorders[id]?
      | .called j x =>
        if id = j then (w.recorders[id]?).map fun r => { r with captured := some x }
        else w.recorders[id]?
      | _ => w.recorders[id]? := by
  cases d with
  | started c | created c =>
    simp only [after, start, create, emit]
    rcases Nat.lt_trichotomy id w.recorders.length with hlt | rfl | hgt
    · simp [List.getElem?_append_left hlt, Nat.ne_of_lt hlt]
    · simp
    · have hne : id ≠ w.recorders.length := Nat.ne_of_gt hgt
      rw [if_neg hne, List.getElem?_eq_none (by simp; omega), List.getElem?_eq_none (by omega)]
  | called j x => exact getElem?_recorders_record j id x
  | configured config => cases config <;> rfl
  | finished =>
    simp only [after]
    split <;> simp
  | replayFailed | emptied => rfl

theorem getElem?_recorders_after_of_lt (hid : id < w.recorders.length) (hd : ∀ x, d ≠ .called id x) :
    (w.after d).recorders[id]? = w.recorders[id]? := by
  rw [getElem?_recorders_after]
  cases d with
  | started c | created c => simp [Nat.ne_of_lt hid]
  | called j x =>
    have hj : id ≠ j := fun h => hd x (h ▸ rfl)
    simp [hj]
  | replayFailed | finished | emptied | configured => rfl

def Owns (w : World) (id : Nat) (c : Capability) : Prop := (w.recorders[id]?).map (·.owner) = some c

def received (w : World) (id : Nat) : Option (Except CaptureError Invocation) :=
  (w.recorders[id]?).bind (·.captured)

theorem owns_iff : w.Owns id c ↔ ∃ r, w.recorders[id]? = some r ∧ r.owner = c :=
  Option.map_eq_some_iff

theorem Owns.lt (h : w.Owns id c) : id < w.recorders.length :=
  have ⟨_, hr, _⟩ := owns_iff.1 h
  (List.getElem?_eq_some_iff.1 hr).1

theorem exists_owns (h : id < w.recorders.length) : ∃ c, w.Owns id c :=
  ⟨_, owns_iff.2 ⟨w.recorders[id], List.getElem?_eq_getElem h, rfl⟩⟩

theorem Owns.unique {c' : Capability} (h : w.Owns id c) (h' : w.Owns id c') : c = c' :=
  Option.some.inj (h.symm.trans h')

theorem lt_of_received {x : Except CaptureError Invocation} (h : w.received id = some x) :
    id < w.recorders.length :=
  have ⟨_, hr, _⟩ := Option.bind_eq_some_iff.1 h
  (List.getElem?_eq_some_iff.1 hr).1

theorem owns_after_iff (w : World) (d : Deed) (id : Nat) (c : Capability) :
    (w.after d).Owns id c ↔ w.Owns id c ∨ (d.new? = some c ∧ id = w.recorders.length) := by
  simp only [Owns, getElem?_recorders_after]
  cases d with
  | started | created =>
    by_cases hid : id = w.recorders.length
    · simp [hid, Deed.new?, Recorder.fresh]
    · simp [hid]
  | called j x =>
    by_cases hid : id = j
    · simp [hid, Deed.new?, Option.map_map, Function.comp_def]
    · simp [hid, Deed.new?]
  | replayFailed | finished | emptied | configured => simp [Deed.new?]

theorem Owns.after (h : w.Owns id c) (d : Deed) : (w.after d).Owns id c :=
  (owns_after_iff w d id c).2 (.inl h)

theorem Owns.foldl (h : w.Owns id c) (ds : List Deed) : (ds.foldl World.after w).Owns id c := by
  induction ds generalizing w with
  | nil => exact h
  | cons d ds ih => exact ih (h.after d)

theorem received_after (w : World) (d : Deed) (id : Nat) :
    (w.after d).received id = match d with
      | .called j x => if id = j ∧ j < w.recorders.length then some x else w.received id
      | _ => w.received id := by
  simp only [received, getElem?_recorders_after]
  cases d with
  | started | created =>
    by_cases hid : id = w.recorders.length
    · simp [hid, Recorder.fresh]
    · simp [hid]
  | called j x =>
    by_cases hid : id = j
    · subst hid
      cases hr : w.recorders[id]? with
      | none => simp [Nat.not_lt.2 (List.getElem?_eq_none_iff.1 hr)]
      | some r => simp [(List.getElem?_eq_some_iff.1 hr).1]
    · simp [hid]
  | replayFailed | finished | emptied | configured => rfl

theorem pending_of_slot_none (flavor : Flavor) (hslot : w.slot = none) :
    w.pending flavor = .error (.notStarted flavor) := by
  simp [pending, hslot]

theorem pending_of_slot (flavor : Flavor) (hslot : w.slot = some id) (h : w.Owns id c) :
    w.pending flavor = (w.received id).getD (.error (.nothingCaptured c)) := by
  obtain ⟨r, hr, rfl⟩ := owns_iff.1 h
  simp [pending, received, hslot, hr, Recorder.invocation]

end World

namespace History

structure Reflects (w : World) (h : History) : Prop where
  made : w.recorders.length = made h
  configured : w.config = h.foldl configAfter none
  inRange {id : Nat} : w.slot = some id → id < w.recorders.length
  pending {c : Capability} {id : Nat} : Pending h c id ↔ w.slot = some id ∧ w.Owns id c
  calls {id : Nat} {x : Except CaptureError Invocation} : LastCall h id x ↔ w.received id = some x

variable {w : World} {h : History} {d : Deed} {c : Capability} {id : Nat}
  {x : Except CaptureError Invocation}

theorem not_pending_nil : ¬ Pending [] c id := by
  simp [Pending]

theorem not_lastCall_nil : ¬ LastCall [] id x := by
  simp [LastCall]

theorem reflects_initial : Reflects .initial [] where
  made := rfl
  configured := rfl
  inRange := nofun
  pending := iff_of_false not_pending_nil (by simp [World.initial])
  calls := iff_of_false not_lastCall_nil (by simp [World.received, World.initial])

theorem Reflects.activeConfig (hw : Reflects w h) : w.activeConfig = config h := by
  rw [World.activeConfig, hw.configured, History.config]

theorem Reflects.slot_eq_none (hw : Reflects w h) (hnone : ∀ c id, ¬ Pending h c id) : w.slot = none := by
  cases hslot : w.slot with
  | none => rfl
  | some id =>
    obtain ⟨c, howns⟩ := World.exists_owns (hw.inRange hslot)
    exact absurd (hw.pending.2 ⟨hslot, howns⟩) (hnone c id)

theorem Reflects.pending_after (hw : Reflects w h) (d : Deed) :
    Pending (h ++ [d]) c id ↔ (w.after d).slot = some id ∧ (w.after d).Owns id c := by
  rw [pending_snoc, hw.pending, World.slot_after, World.owns_after_iff, ← hw.made]
  have hrange : w.slot = some id → id < w.recorders.length := hw.inRange
  cases d with
  | started c' =>
    -- The recorder is new, so no stand-in that was there owns it.
    constructor
    · rintro (⟨hc, rfl⟩ | ⟨hends, -⟩)
      · exact ⟨rfl, .inr ⟨congrArg Deed.new? hc, rfl⟩⟩
      · exact absurd trivial hends
    · rintro ⟨hid, howns | ⟨hc, rfl⟩⟩
      · exact absurd howns.lt (by simp [Option.some.inj hid])
      · exact .inl ⟨congrArg Deed.started (Option.some.inj hc), rfl⟩
  | created c' =>
    -- The slot refers to a recorder that was there.
    constructor
    · rintro (⟨hc, -⟩ | ⟨-, hslot, howns⟩)
      · cases hc
      · exact ⟨hslot, .inl howns⟩
    · rintro ⟨hslot, howns | ⟨-, rfl⟩⟩
      · exact .inr ⟨nofun, hslot, howns⟩
      · exact absurd (hrange hslot) (Nat.lt_irrefl _)
  | called j x => simp [Ends, Deed.new?]
  | replayFailed i e => simp [Ends, Deed.new?]
  | finished =>
    simp only [Ends, ← hw.activeConfig]
    cases w.activeConfig.resetSlotOnFinish <;> simp [Deed.new?]
  | emptied => simp [Ends]
  | configured config => simp [Ends, Deed.new?]

theorem Reflects.calls_after (hw : Reflects w h)
    (hd : ∀ id x, d = .called id x → id < w.recorders.length) :
    LastCall (h ++ [d]) id x ↔ (w.after d).received id = some x := by
  rw [lastCall_snoc, hw.calls, World.received_after]
  cases d with
  | called j y =>
    have hj := hd j y rfl
    by_cases hid : id = j
    · subst hid
      simp [hj]
    · simp [hid, Ne.symm hid]
  | started | created | replayFailed | finished | emptied | configured => simp

theorem Reflects.after (hw : Reflects w h) (hd : ∀ id x, d = .called id x → id < w.recorders.length) :
    Reflects (w.after d) (h ++ [d]) where
  made := by rw [World.length_recorders_after, made_snoc, hw.made]
  configured := by rw [World.config_after, hw.configured, List.foldl_append]; rfl
  inRange := by
    intro id hid
    rw [World.slot_after] at hid
    rw [World.length_recorders_after]
    cases d with
    | started c =>
      cases hid
      exact Nat.lt_succ_self _
    | finished =>
      by_cases hreset : w.activeConfig.resetSlotOnFinish
      · simp [hreset] at hid
      · exact Nat.lt_add_right _ (hw.inRange (by simpa [hreset] using hid))
    | emptied => cases hid
    | created | called | replayFailed | configured => exact Nat.lt_add_right _ (hw.inRange hid)
  pending := hw.pending_after d
  calls := hw.calls_after hd

theorem Reflects.foldl {ds : List Deed} (hw : Reflects w h)
    (hds : ∀ d ∈ ds, ∀ id x, d = .called id x → id < w.recorders.length) :
    Reflects (ds.foldl World.after w) (h ++ ds.filter Deed.lasts) := by
  induction ds generalizing w h with
  | nil => simpa using hw
  | cons d ds ih =>
    obtain ⟨hd, hrest⟩ := List.forall_mem_cons.1 hds
    have hlater : ∀ e ∈ ds, ∀ id x, e = .called id x → id < (w.after d).recorders.length := by
      intro e he id x heq
      rw [World.length_recorders_after]
      exact Nat.lt_add_right _ (hrest e he id x heq)
    cases d with
    | replayFailed i e =>
      exact ih ⟨hw.made, hw.configured, hw.inRange, hw.pending, hw.calls⟩ hlater
    | started | created | called | finished | emptied | configured =>
      rw [List.filter_cons_of_pos rfl, List.append_cons]
      exact ih (hw.after hd) hlater

end History

end Facet
