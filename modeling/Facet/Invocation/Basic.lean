import Facet.Capability.Instance
import Facet.Description
import Facet.Json.Text
import Facet.Value.Decode
import Facet.Value.Encode
import Facet.Value.Equality

namespace Facet

structure Member where
  declaring : Capability
  name : String
  params : List String
  returns : Ty
  deriving DecidableEq

namespace Member

def arity (m : Member) : Nat := m.params.length

def text (m : Member) : String :=
  m.declaring.name ++ "::" ++ m.name ++ "(" ++ ", ".intercalate m.params ++ ")"

def debug (m : Member) : String :=
  "Member \x7b declaring_type: TypeId, declaring_type_name: " ++ Text.quote m.declaring.name ++
    ", name: " ++ Text.quote m.name ++ ", parameter_types: " ++ debugList Text.quote m.params ++
    ", return_type: TypeId, return_type_name: " ++ Text.quote m.returns.fullName ++ " \x7d"

end Member

def Method.member {c : Capability} (m : Method c) : Member :=
  ⟨c, m.name, m.params.map Ty.spelling, m.returns⟩

structure Argument where
  value : Json
  rendering : String

namespace Argument

def capture (t : Ty) (a : t.Val) : Except Unencodable Argument :=
  (t.encode a).map (⟨·, t.render a⟩)

def eqv (a b : Argument) : Bool := a.value.eqv b.value

def describe (a : Argument) (d : Description) : Description := d.appendText a.rendering

def debug (a : Argument) : String :=
  "Argument \x7b value: " ++ a.value.debug ++ ", rendering: " ++ Text.quote a.rendering ++ " \x7d"

end Argument

inductive Refusal
  | unencodable : Unencodable → Refusal
  | unreadable : (rendering : String) → Decoding.Mismatch → Refusal
  | unrepeatable : (rendering : String) → Unencodable → Refusal
  | altered : (rendering replayed : String) → Refusal
  | stated : String → Refusal

def Refusal.reason : Refusal → String
  | .unencodable e => e.message
  | .unreadable rendering e => rendering ++ " does not survive serialization: " ++ e.message .json
  | .unrepeatable rendering e => rendering ++ " does not survive serialization: " ++ e.message
  | .altered rendering replayed =>
    rendering ++ " does not survive serialization: replay would pass " ++ replayed
  | .stated reason => reason

/-- An argument is captured only if what a replay would decode, as a value of type `u`, reads or encodes
like it. A null says too little about the value it stands for to count as the same encoding. -/
def Argument.captureAs (t u : Ty) (a : t.Val) : Except Refusal Argument :=
  match capture t a with
  | .error e => .error (.unencodable e)
  | .ok captured =>
    match u.decode captured.value with
    | .error e => .error (.unreadable captured.rendering e)
    | .ok b =>
      match capture u b with
      | .error e => .error (.unrepeatable captured.rendering e)
      | .ok replayed =>
        if replayed.rendering = captured.rendering ∨
            (replayed.eqv captured ∧ captured.value.hasNull = false) then .ok captured
        else .error (.altered captured.rendering replayed.rendering)

inductive Flavor
  | hasValue | such
  deriving DecidableEq

namespace Flavor

def verb : Flavor → String
  | .hasValue => "has value"
  | .such => "such that"

def starter : Flavor → String
  | .hasValue => "on"
  | .such => "that"

def finisher : Flavor → String
  | .hasValue => "has_value"
  | .such => "such"

def debug : Flavor → String
  | .hasValue => "HasValue"
  | .such => "Such"

end Flavor

inductive CaptureError
  | notStarted : Flavor → CaptureError
  | nothingCaptured : Capability → CaptureError
  | typeMismatch : Member → (requested : Capability) → CaptureError
  | returnTypeMismatch : Member → (expected : Ty) → CaptureError
  | arityMismatch : Member → (supplied : Nat) → CaptureError
  | capture : Member → (index : Nat) → Refusal → CaptureError

def CaptureError.message : CaptureError → String
  | .notStarted f => f.starter ++ "() must be invoked before " ++ f.finisher ++ "()"
  | .nothingCaptured c => "no method was invoked on the " ++ c.name ++ " stand-in"
  | .typeMismatch m requested => "invocation of " ++ m.text ++ " cannot be replayed on " ++ requested.name
  | .returnTypeMismatch m expected =>
    m.text ++ " returns " ++ m.returns.fullName ++ ", not " ++ expected.fullName
  | .arityMismatch m supplied =>
    m.text ++ " takes " ++ toString m.arity ++ " argument(s) but " ++ toString supplied ++
      " were supplied"
  | .capture m index refusal =>
    "argument #" ++ toString index ++ " of " ++ m.text ++ " could not be captured: " ++ refusal.reason

structure Invocation where
  member : Member
  arguments : List Argument

namespace Invocation

def new (member : Member) (arguments : List Argument) : Except CaptureError Invocation :=
  if arguments.length = member.arity then .ok ⟨member, arguments⟩
  else .error (.arityMismatch member arguments.length)

def eqv (i j : Invocation) : Bool := i.member == j.member && eqvList Argument.eqv i.arguments j.arguments

def describe (i : Invocation) (d : Description) : Description :=
  (Description.appendSeparated ", " Argument.describe i.arguments
    ((d.appendText i.member.name).appendText "(")).appendText ")"

def text (i : Invocation) : String := (i.describe .empty).text

def debug (i : Invocation) : String :=
  "Invocation \x7b member: " ++ i.member.debug ++ ", arguments: " ++
    debugList Argument.debug i.arguments ++ " \x7d"

theorem text_describe (i : Invocation) (d : Description) :
    (i.describe d).text =
      d.text ++ (i.member.name ++ "(" ++ ", ".intercalate (i.arguments.map Argument.rendering) ++ ")") := by
  have hargs (d : Description) :
      (Description.appendSeparated ", " Argument.describe i.arguments d).text =
        d.text ++ ", ".intercalate (i.arguments.map Argument.rendering) :=
    Description.text_appendSeparated (fun _ _ => rfl) ", " i.arguments d
  simp [describe, hargs, String.append_assoc]

theorem text_eq (i : Invocation) :
    i.text = i.member.name ++ "(" ++ ", ".intercalate (i.arguments.map Argument.rendering) ++ ")" := by
  rw [text, text_describe, Description.text_empty, String.empty_append]

theorem describe_eq (i : Invocation) (d : Description) : i.describe d = d.appendText i.text := by
  rw [text_eq]
  exact congrArg Description.mk (i.text_describe d)

end Invocation

def collectArguments (member : Member) :
    (index : Nat) → List (Except Refusal Argument) → Except CaptureError (List Argument)
  | _, [] => .ok []
  | index, .error refusal :: _ => .error (.capture member index refusal)
  | index, .ok a :: rest => (collectArguments member (index + 1) rest).map (a :: ·)

def intercept (member : Member) (arguments : List (Except Refusal Argument)) :
    Except CaptureError Invocation :=
  match collectArguments member 0 arguments with
  | .error e => .error e
  | .ok captured => Invocation.new member captured

def captureArgs : (ts : List Ty) → Args ts → List (Except Refusal Argument)
  | [], () => []
  | t :: ts, (a, rest) => Argument.captureAs t t a :: captureArgs ts rest

def Method.capture {c : Capability} (m : Method c) (args : Args m.params) :
    Except CaptureError Invocation :=
  intercept m.member (captureArgs m.params args)

end Facet
