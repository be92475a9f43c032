import Facet.Invocation.Basic

/-!
Replaying an invocation on an instance or on a stand-in. The method is found by name, its arguments are
decoded one after the other, and only then is it called. What a replay leaves behind besides its outcome
is a list of notes: calls that a stand-in received, and replays that failed.
-/

namespace Facet

inductive ReplayError
  | panicked : Panic → ReplayError
  | argument : Member → (index : Nat) → Option Decoding.Mismatch → ReplayError
  | unknownMember : Member → ReplayError
  | returnType : Member → (expected : Ty) → ReplayError

def ReplayError.message : ReplayError → String
  | .panicked p => p.text "panic"
  | .argument m index mismatch =>
    "argument #" ++ toString index ++ " of " ++ m.text ++ " could not be decoded: " ++
      (mismatch.map (·.message .json)).getD "missing"
  | .unknownMember m => m.text ++ " is not a member of this type"
  | .returnType m expected => m.text ++ " did not return a " ++ expected.fullName

inductive Note
  | captured : Except CaptureError Invocation → Note
  | replayFailed : Invocation → ReplayError → Note

/-- A computation that may panic and leaves notes either way. -/
structure Traced (α : Type) where
  outcome : Except Panic α
  notes : List Note

namespace Traced

variable {α β : Type}

protected def pure (a : α) : Traced α := ⟨.ok a, []⟩

protected def bind (x : Traced α) (f : α → Traced β) : Traced β :=
  match x.outcome with
  | .error p => ⟨.error p, x.notes⟩
  | .ok a => ⟨(f a).outcome, x.notes ++ (f a).notes⟩

instance : Monad Traced where
  pure := Traced.pure
  bind := Traced.bind

def panic (p : Panic) : Traced α := ⟨.error p, []⟩

def note (n : Note) : Traced Unit := ⟨.ok (), [n]⟩

def attempt (x : Traced α) : Traced (Except Panic α) := ⟨.ok x.outcome, x.notes⟩

@[simp] theorem outcome_pure (a : α) : (pure a : Traced α).outcome = .ok a := rfl

@[simp] theorem notes_pure (a : α) : (pure a : Traced α).notes = [] := rfl

@[simp] theorem attempt_outcome (x : Traced α) : x.attempt.outcome = .ok x.outcome := rfl

@[simp] theorem attempt_notes (x : Traced α) : x.attempt.notes = x.notes := rfl

theorem bind_ok {x : Traced α} {a : α} (h : x.outcome = .ok a) (f : α → Traced β) :
    x >>= f = ⟨(f a).outcome, x.notes ++ (f a).notes⟩ := by
  simp [bind, Traced.bind, h]

theorem bind_error {x : Traced α} {p : Panic} (h : x.outcome = .error p) (f : α → Traced β) :
    x >>= f = ⟨.error p, x.notes⟩ := by
  simp [bind, Traced.bind, h]

end Traced

inductive Target (c : Capability)
  | real : Instance c → Target c
  | standIn : Target c

def Method.call {c : Capability} (m : Method c) (args : Args m.params) : Target c → Traced m.returns.Val
  | .real instance_ => ⟨instance_ m args, []⟩
  | .standIn => ⟨.ok m.returns.default, [.captured (m.capture args)]⟩

/-- Decodes the arguments for the parameters from `index` on. Arguments beyond the parameters are not
looked at. -/
def decodeArgs : (ts : List Ty) → List Argument → (index : Nat) →
    Except (Nat × Option Decoding.Mismatch) (Args ts)
  | [], _, _ => .ok ()
  | _ :: _, [], index => .error (index, none)
  | t :: ts, a :: rest, index =>
    match t.decode a.value with
    | .error e => .error (index, some e)
    | .ok x =>
      match decodeArgs ts rest (index + 1) with
      | .error e => .error e
      | .ok xs => .ok (x, xs)

namespace Invocation

def resolve (i : Invocation) (c : Capability) : Except ReplayError ((m : Method c) × Args m.params) :=
  match Method.ofName? c i.member.name with
  | none => .error (.unknownMember i.member)
  | some m =>
    match decodeArgs m.params i.arguments 0 with
    | .error (index, mismatch) => .error (.argument i.member index mismatch)
    | .ok args => .ok ⟨m, args⟩

def cast (i : Invocation) (t u : Ty) (a : t.Val) : Except ReplayError u.Val :=
  if h : t = u then .ok (h ▸ a) else .error (.returnType i.member u)

def replay {c : Capability} (i : Invocation) (u : Ty) (target : Target c) :
    Traced (Except ReplayError u.Val) :=
  match i.resolve c with
  | .error e => pure (.error e)
  | .ok ⟨m, args⟩ =>
    let called := m.call args target
    ⟨.ok (match called.outcome with
      | .error p => .error (.panicked p)
      | .ok a => i.cast m.returns u a), called.notes⟩

end Invocation

end Facet
