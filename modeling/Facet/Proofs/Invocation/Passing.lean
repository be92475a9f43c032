import Facet.Proofs.Invocation.Replay

namespace Facet

inductive Passed : (ts : List Ty) → List Argument → Args ts → Prop
  | nil : Passed [] [] ()
  | cons {t : Ty} {ts : List Ty} {a : Argument} {as : List Argument} {x : t.Val} {xs : Args ts} :
    t.decode a.value = .ok x → Passed ts as xs → Passed (t :: ts) (a :: as) (x, xs)

/-- The argument for the parameter at the place `k` is missing or cannot be decoded, and those before it
can. -/
inductive Unreadable : (ts : List Ty) → List Argument → (k : Nat) → Option Decoding.Mismatch → Prop
  | missing {t : Ty} {ts : List Ty} : Unreadable (t :: ts) [] 0 none
  | mismatched {t : Ty} {ts : List Ty} {a : Argument} {as : List Argument} {e : Decoding.Mismatch} :
    t.decode a.value = .error e → Unreadable (t :: ts) (a :: as) 0 (some e)
  | later {t : Ty} {ts : List Ty} {a : Argument} {as : List Argument} {x : t.Val} {k : Nat}
      {mismatch : Option Decoding.Mismatch} :
    t.decode a.value = .ok x → Unreadable ts as k mismatch →
    Unreadable (t :: ts) (a :: as) (k + 1) mismatch

variable {ts : List Ty} {as : List Argument} {xs : Args ts}

theorem Passed.length_eq (h : Passed ts as xs) : as.length = ts.length := by
  induction h with
  | nil => rfl
  | cons _ _ ih => exact congrArg (· + 1) ih

theorem exists_passed_of_decodeArgs {index : Nat} (h : decodeArgs ts as index = .ok xs) :
    ∃ read surplus, as = read ++ surplus ∧ Passed ts read xs := by
  induction ts generalizing as index with
  | nil =>
    -- The parameters are served; what is there is left over.
    exact ⟨[], as, rfl, .nil⟩
  | cons t ts ih =>
    cases as with
    | nil => cases h
    | cons a as =>
      simp only [decodeArgs] at h
      cases hx : t.decode a.value with
      | error e => simp [hx] at h
      | ok x =>
        cases hrest : decodeArgs ts as (index + 1) with
        | error e => simp [hx, hrest] at h
        | ok rest =>
          simp only [hx, hrest] at h
          cases h
          obtain ⟨read, surplus, rfl, hread⟩ := ih hrest
          exact ⟨a :: read, surplus, rfl, .cons hx hread⟩

theorem exists_unreadable_of_decodeArgs {index n : Nat} {mismatch : Option Decoding.Mismatch}
    (h : decodeArgs ts as index = .error (n, mismatch)) :
    ∃ k, n = index + k ∧ Unreadable ts as k mismatch := by
  induction ts generalizing as index with
  | nil => cases h
  | cons t ts ih =>
    cases as with
    | nil =>
      cases h
      exact ⟨0, rfl, .missing⟩
    | cons a as =>
      simp only [decodeArgs] at h
      cases hx : t.decode a.value with
      | error e =>
        simp only [hx] at h
        cases h
        exact ⟨0, rfl, .mismatched hx⟩
      | ok x =>
        cases hrest : decodeArgs ts as (index + 1) with
        | error e =>
          simp only [hx, hrest] at h
          cases h
          obtain ⟨k, rfl, hk⟩ := ih hrest
          exact ⟨k + 1, by omega, .later hx hk⟩
        | ok rest => simp [hx, hrest] at h

namespace Invocation

variable {c : Capability} {i : Invocation}

inductive Answers (i : Invocation) : {t u : Ty} → Except Panic t.Val → Except ReplayError u.Val → Prop
  | returned {t : Ty} {v : t.Val} : Answers i (t := t) (u := t) (.ok v) (.ok v)
  | panicked {t u : Ty} {p : Panic} : Answers i (t := t) (u := u) (.error p) (.error (.panicked p))
  | mistyped {t u : Ty} {v : t.Val} : t ≠ u →
    Answers i (t := t) (u := u) (.ok v) (.error (.returnType i.member u))

def Calls (i : Invocation) (m : Method c) (args : Args m.params) : Prop :=
  ∀ (u : Ty) (target : Target c), ∃ o : Except ReplayError u.Val,
    i.replay u target = ⟨.ok o, (m.call args target).notes⟩ ∧ i.Answers (m.call args target).outcome o

def CallsNothing (i : Invocation) (c : Capability) (e : ReplayError) : Prop :=
  ∀ (u : Ty) (target : Target c), i.replay u target = pure (.error e)

inductive Unanswerable (i : Invocation) (c : Capability) : ReplayError → Prop
  | unknownMember : (∀ m : Method c, m.name ≠ i.member.name) → Unanswerable i c (.unknownMember i.member)
  | argument {m : Method c} {k : Nat} {mismatch : Option Decoding.Mismatch} :
    m.name = i.member.name → Unreadable m.params i.arguments k mismatch →
    Unanswerable i c (.argument i.member k mismatch)

theorem answers_cast (i : Invocation) (t u : Ty) (v : t.Val) :
    i.Answers (.ok v : Except Panic t.Val) (i.cast t u v) := by
  by_cases h : t = u
  · subst h
    rw [cast_self]
    exact .returned
  · simp only [cast, h, dif_neg, not_false_eq_true]
    exact .mistyped h

theorem calls_of_resolve {m : Method c} {args : Args m.params} (h : i.resolve c = .ok ⟨m, args⟩) :
    i.Calls m args := by
  intro u target
  simp only [replay, h]
  cases hcall : (m.call args target).outcome with
  | error p => exact ⟨_, rfl, .panicked⟩
  | ok v => exact ⟨_, rfl, i.answers_cast _ u v⟩

theorem callsNothing_of_resolve {e : ReplayError} (h : i.resolve c = .error e) : i.CallsNothing c e := by
  intro u target
  simp only [replay, h]

theorem exists_passed_of_resolve {m : Method c} {args : Args m.params}
    (h : i.resolve c = .ok ⟨m, args⟩) :
    m.name = i.member.name ∧
      ∃ read surplus, i.arguments = read ++ surplus ∧ Passed m.params read args := by
  simp only [resolve] at h
  cases hname : Method.ofName? c i.member.name with
  | none => simp [hname] at h
  | some m' =>
    cases hargs : decodeArgs m'.params i.arguments 0 with
    | error e => simp [hname, hargs] at h
    | ok args' =>
      simp only [hname, hargs] at h
      cases h
      exact ⟨Method.name_of_ofName? hname, exists_passed_of_decodeArgs hargs⟩

theorem unanswerable_of_resolve {e : ReplayError} (h : i.resolve c = .error e) : i.Unanswerable c e := by
  simp only [resolve] at h
  cases hname : Method.ofName? c i.member.name with
  | none =>
    simp only [hname] at h
    cases h
    exact .unknownMember (Method.name_ne_of_ofName? hname)
  | some m =>
    cases hargs : decodeArgs m.params i.arguments 0 with
    | error failure =>
      simp only [hname, hargs] at h
      cases h
      obtain ⟨k, hk, hunreadable⟩ := exists_unreadable_of_decodeArgs hargs
      rw [hk, Nat.zero_add]
      exact .argument (Method.name_of_ofName? hname) hunreadable
    | ok args => simp [hname, hargs] at h

/-- A replay calls the method that has the member's name, with the decodings of the first arguments, one
for each parameter, or it fails and calls nothing. Arguments are left over unless the member lists as many
parameters as the method has. -/
theorem replay_passes_arguments {member : Member} {arguments : List Argument}
    (h : Invocation.new member arguments = .ok i) (c : Capability) :
    (∃ (m : Method c) (args : Args m.params) (read surplus : List Argument),
      i.Calls m args ∧ m.name = member.name ∧ arguments = read ++ surplus ∧
        Passed m.params read args ∧ (surplus = [] ↔ member.arity = m.params.length)) ∨
    ∃ e, i.CallsNothing c e ∧ i.Unanswerable c e := by
  obtain ⟨harity, rfl⟩ : arguments.length = member.arity ∧ i = ⟨member, arguments⟩ := by
    simp only [Invocation.new] at h
    split at h
    next harity => exact ⟨harity, (Except.ok.inj h).symm⟩
    next => cases h
  cases hresolve : (⟨member, arguments⟩ : Invocation).resolve c with
  | error e => exact .inr ⟨e, callsNothing_of_resolve hresolve, unanswerable_of_resolve hresolve⟩
  | ok called =>
    obtain ⟨m, args⟩ := called
    obtain ⟨hname, read, surplus, hargs, hread⟩ := exists_passed_of_resolve hresolve
    refine .inl ⟨m, args, read, surplus, calls_of_resolve hresolve, hname, hargs, hread, ?_⟩
    -- The count was checked against the member, while the method decides how many are read.
    have hlength : read.length + surplus.length = member.arity := by
      rw [← harity, show arguments = read ++ surplus from hargs, List.length_append]
    rw [← hlength, hread.length_eq, ← List.length_eq_zero_iff]
    omega

def crowded : Invocation where
  member := ⟨.person, "get_name_with_argument", ["&str", "&str"], .name⟩
  arguments := [⟨.string "x", "\"x\""⟩, ⟨.string "y", "\"y\""⟩]

theorem new_crowded : Invocation.new crowded.member crowded.arguments = .ok crowded := rfl

theorem replay_passes_arguments_crowded :
    Invocation.new crowded.member crowded.arguments = .ok crowded ∧
      ∃ (m : Method .person) (args : Args m.params) (read surplus : List Argument),
        crowded.Calls m args ∧ crowded.arguments = read ++ surplus ∧ Passed m.params read args := by
  refine ⟨new_crowded, ?_⟩
  rcases replay_passes_arguments new_crowded .person with
    ⟨m, args, read, surplus, hcalls, -, hargs, hread, -⟩ | ⟨e, hnothing, -⟩
  · exact ⟨m, args, read, surplus, hcalls, hargs, hread⟩
  · cases congrArg Traced.outcome (hnothing .name .standIn)

theorem exists_replay_with_surplus :
    ∃ i : Invocation, Invocation.new i.member i.arguments = .ok i ∧
      (i.replay .name (.real (.person "p" ⟨3, by decide⟩))).outcome = .ok (.ok ⟨"p:x"⟩) ∧
      ∀ m : Method .person, m.name = i.member.name → m.params.length < i.arguments.length := by
  refine ⟨crowded, new_crowded, rfl, fun m => ?_⟩
  cases m <;> decide

end Invocation

end Facet
