import Facet.Session.Names
import Facet.Session.World

namespace Facet

structure Session where
  world : World
  standIns : (c : Capability) → Names Nat
  matchers : (c : Capability) → Names (InstanceMatcher c)
  invocations : Names Invocation
  guards : Nat

inductive Subject (c : Capability)
  | real : Instance c → Subject c
  | standIn : String → Subject c

structure Keeping where
  diagnostics : Option Diagnostics
  name : String

inductive Step
  | start : Capability → (name : String) → Step
  | create : Capability → (name : String) → Step
  | drop : Capability → (name : String) → Step
  | call : {c : Capability} → (name : String) → (m : Method c) → Args m.params → Step
  | direct : {c : Capability} → Subject c → (m : Method c) → Args m.params → Step
  | captured : Capability → (name : String) → (keepAs : Option String) → Step
  | intercept : Capability → (name : String) → Member → List (Except Refusal Argument) → Step
  | make : Member → List Argument → (keepAs : String) → Step
  | same : (first second : String) → Step
  | finish : Capability → Flavor → (u : Ty) → ValueMatcher u → (panicking : Bool) → Keeping → Step
  | build : Capability → Flavor → (u : Ty) → ValueMatcher u → (invocation : String) → Keeping → Step
  | replay : {c : Capability} → (u : Ty) → (invocation : String) → Subject c → Step
  | evaluate : {c : Capability} → Matcher String → Subject c → (keepAs : Option String) → Step
  | setConfig : Option Diagnostics → (reset : Option Bool) → Step
  | resetConfig
  | active
  | reset
  | guard
  | unguard
  | isSet

structure Evaluation where
  verdict : Matcher.Verdict
  mismatch : String
  complaint : Option String

inductive Reply
  | standIn : Capability → Reply
  | flag : Bool → Reply
  | rendering : String → Reply
  | invocation : Invocation → Reply
  | matcher : {c : Capability} → Replaying c → Reply
  | evaluation : Evaluation → Reply
  | config : Config → Reply
  | guard
  | nothing
  | captureError : CaptureError → Reply
  | replayError : ReplayError → Reply
  | panic : Panic → Reply
  | unknownName : String → Reply

namespace Matcher

variable {L X : Type} [Criterion L X]

def examine (m : Matcher L) (x : X) : Traced Evaluation := do
  let verdict ← m.evaluate x
  let mismatch ← m.explain x .empty
  let asserted ← (m.assertThat x).attempt
  return ⟨verdict, mismatch.text, match asserted with
    | .ok () => none
    | .error p => some (p.text "?")⟩

mutual

def resolve (find : String → Option (Matcher L)) : Matcher String → Except String (Matcher L)
  | .criterion name =>
    match find name with
    | none => .error name
    | some m => .ok m
  | .anything description => .ok (.anything description)
  | .stub s => .ok (.stub s)
  | .not m => (resolve find m).map .not
  | .allOf ms => (resolveAll find ms).map .allOf
  | .forward p m => (resolve find m).map (.forward p)

def resolveAll (find : String → Option (Matcher L)) :
    List (Matcher String) → Except String (List (Matcher L))
  | [] => .ok []
  | m :: ms =>
    match resolve find m with
    | .error name => .error name
    | .ok m => (resolveAll find ms).map (m :: ·)

end

end Matcher

namespace Session

def initial : Session := ⟨.initial, fun _ => [], fun _ => [], [], 0⟩

def update {α : Capability → Type} (f : (c : Capability) → α c) (c : Capability) (g : α c → α c)
    (d : Capability) : α d :=
  if h : c = d then h ▸ g (f c) else f d

def keepStandIn (s : Session) (c : Capability) (name : String) (id : Nat) : Session :=
  { s with standIns := update s.standIns c (·.keep name id) }

def keepMatcher (s : Session) (c : Capability) (name : String) (m : InstanceMatcher c) : Session :=
  { s with matchers := update s.matchers c (·.keep name m) }

def keepInvocation (s : Session) (name : String) (i : Invocation) : Session :=
  { s with invocations := s.invocations.keep name i }

def target? (s : Session) {c : Capability} : Subject c → Option (Target c × Option Nat)
  | .real i => some (.real i, none)
  | .standIn name => ((s.standIns c).find? name).map fun id => (.standIn, some id)

def runOn {α : Type} {c : Capability} (s : Session) (subject : Subject c)
    (run : Target c → Traced α) (reply : α → Reply) : Reply × Session :=
  match s.target? subject with
  | none => (.unknownName (match subject with | .standIn name => name | .real _ => ""), s)
  | some (target, id) =>
    let traced := run target
    (match traced.outcome with
      | .error p => .panic p
      | .ok a => reply a, { s with world := s.world.settle id traced.notes })

def conclude {c : Capability} (s : Session) (panicking : Bool) (keeping : Keeping) :
    Except CaptureError (Replaying c) → Reply × Session
  | .error e => (if panicking then .panic (.message e.message) else .captureError e, s)
  | .ok m =>
    let m := match keeping.diagnostics with
      | none => m
      | some d => m.withDiagnostics d
    (.matcher m, s.keepMatcher c keeping.name (.criterion m))

def run (s : Session) : Step → Reply × Session
  | .start c name =>
    let (id, world) := s.world.start c
    (.standIn c, { s with world }.keepStandIn c name id)
  | .create c name =>
    let (id, world) := s.world.create c
    (.standIn c, { s with world }.keepStandIn c name id)
  | .drop c name =>
    (.flag ((s.standIns c).find? name).isSome,
      { s with standIns := update s.standIns c (·.forget name) })
  | .call (c := c) name m args =>
    s.runOn (c := c) (.standIn name) (m.call args) fun a => .rendering (m.returns.render a)
  | .direct subject m args =>
    s.runOn subject (m.call args) fun a => .rendering (m.returns.render a)
  | .captured c name keepAs =>
    match ((s.standIns c).find? name).bind (s.world.recorders[·]?) with
    | none => (.unknownName name, s)
    | some r =>
      match r.invocation with
      | .error e => (.captureError e, s)
      | .ok i =>
        (.invocation i, match keepAs with
          | none => s
          | some key => s.keepInvocation key i)
  | .intercept c name member arguments =>
    match (s.standIns c).find? name with
    | none => (.unknownName name, s)
    | some id => (.nothing, { s with world := s.world.record id (Facet.intercept member arguments) })
  | .make member arguments keepAs =>
    match Invocation.new member arguments with
    | .error e => (.captureError e, s)
    | .ok i => (.invocation i, s.keepInvocation keepAs i)
  | .same first second =>
    match s.invocations.find? first, s.invocations.find? second with
    | none, _ => (.unknownName first, s)
    | _, none => (.unknownName second, s)
    | some i, some j => (.flag (i.eqv j), s)
  | .finish c flavor u inner panicking keeping =>
    let (built, world) := s.world.finish c flavor u inner
    { s with world }.conclude panicking keeping built
  | .build c flavor u inner name keeping =>
    match s.invocations.find? name with
    | none => (.unknownName name, s)
    | some i => s.conclude false keeping (s.world.build c flavor i u inner)
  | .replay u name subject =>
    match s.invocations.find? name with
    | none => (.unknownName name, s)
    | some i =>
      s.runOn subject (i.replay u) fun
        | .error e => .replayError e
        | .ok a => .rendering (u.render a)
  | .evaluate (c := c) expression subject keepAs =>
    match expression.resolve (s.matchers c).find? with
    | .error name => (.unknownName name, s)
    | .ok m =>
      let (reply, s) := s.runOn subject m.examine .evaluation
      (reply, match keepAs with
        | none => s
        | some key => s.keepMatcher c key m)
  | .setConfig diagnostics reset =>
    let config := Config.default.withOverrides diagnostics reset
    let world := s.world.activate config
    (.config world.activeConfig, { s with world })
  | .resetConfig =>
    let world := s.world.deactivate
    (.config world.activeConfig, { s with world })
  | .active => (.config s.world.activeConfig, s)
  | .reset => (.nothing, { s with world := s.world.reset })
  | .guard => (.guard, { s with world := s.world.reset, guards := s.guards + 1 })
  | .unguard =>
    match s.guards with
    | 0 => (.flag false, s)
    | n + 1 => (.flag true, { s with world := s.world.reset, guards := n })
  | .isSet => (.flag s.world.isSet, s)

structure Report where
  reply : Reply
  isSet : Bool
  events : List Event

def report (s : Session) (step : Step) : Report × Session :=
  let (reply, t) := s.run step
  (⟨reply, t.world.isSet, t.world.log.drop s.world.log.length⟩, t)

def runAll (s : Session) : List Step → List Report × Session
  | [] => ([], s)
  | step :: rest =>
    let (r, s) := s.report step
    let (rs, s) := s.runAll rest
    (r :: rs, s)

end Session

end Facet
