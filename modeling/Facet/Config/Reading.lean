import Facet.Config.Basic
import Facet.Yaml.Meaning

/-!
Reading a configuration from YAML text: a mapping with both settings, each once; other keys are passed
over. The first thing that is wrong, in the order of the text, is the failure.
-/

namespace Facet

open Yaml Decoding

namespace Config

structure Place where
  mark : Mark
  setting : Option String

inductive Failure
  | fault : Fault → Failure
  | mismatch : Mismatch → Option Place → Failure
  | manyDocuments
  | noValue

namespace Failure

def locate (m : Mark) (setting : Option String) : Failure → Failure
  | .mismatch e none => .mismatch e (some ⟨m, setting⟩)
  | f => f

def message : Failure → String
  | .fault f => f.message
  | .mismatch e none => e.message .yaml
  | .mismatch e (some ⟨m, none⟩) => e.message .yaml ++ m.suffix
  | .mismatch e (some ⟨m, some setting⟩) => setting ++ ": " ++ e.message .yaml ++ m.suffix
  | .manyDocuments =>
    "deserializing from YAML containing more than one document is not supported"
  | .noValue => "EOF while parsing a value"

end Failure

abbrev Read (α : Type) := Except Failure α

def located {α : Type} (m : Mark) (setting : Option String) (r : Read α) : Read α :=
  r.mapError (.locate m setting)

def ended (d : Document) : Failure :=
  match d.fault with
  | some f => .fault f
  | none => .noValue

def next (d : Document) : Items → Read (Item × Mark × Items)
  | [] => .error (ended d)
  | (item, m) :: rest => .ok (item, m, rest)

def unexpected (expected : String) : Item → Failure
  | .scalar tag text style => .mismatch (scalarMismatch tag text style expected) none
  | .sequenceStart _ => .mismatch (.type .sequence expected) none
  | .mappingStart _ => .mismatch (.type .mapping expected) none
  | _ => .noValue

def resolving {α : Type} (d : Document) (setting : Option String)
    (read : Item → Mark → Items → Read (α × Items)) (items : Items) : Read (α × Items) := do
  let (item, m, rest) ← next d items
  located m setting do
    match item with
    | .reference anchor =>
      let (item, m, behind) ← next d (d.target anchor)
      let (a, _) ← read item m behind
      return (a, rest)
    | item => read item m rest

def readKey : Item → Mark → Items → Read (String × Items)
  | .scalar _ text _, _, rest => .ok (.ofList text, rest)
  | item, m, _ => located m none (.error (unexpected "field identifier" item))

def diagnosticsNames : List String := ["detailed", "silent"]

def diagnosticsOf (name : String) : Read Diagnostics :=
  match name with
  | "detailed" => .ok .detailed
  | "silent" => .ok .silent
  | name => .error (.mismatch (.unknownVariant name diagnosticsNames) none)

def noContent (setting : Option String) (item : Item) (m : Mark) : Read Unit :=
  match item with
  | .scalar _ text .plain =>
    if text.isEmpty || isNull text then .ok () else located m setting (.error (unexpected "unit" item))
  | item => located m setting (.error (unexpected "unit" item))

def taggedDiagnostics (setting : Option String) (name : String) (item : Item) (m : Mark) (rest : Items) :
    Read (Diagnostics × Items) := do
  let d ← diagnosticsOf name
  noContent setting item m
  return (d, rest)

def readDiagnostics (setting : Option String) (item : Item) (m : Mark) (rest : Items) :
    Read (Diagnostics × Items) :=
  let untagged (found : Found) : Read (Diagnostics × Items) :=
    located m setting (.error (.mismatch (.type found "a YAML tag starting with '!'") none))
  match item with
  | .scalar tag text _ =>
    match ownTag? tag with
    | some name => taggedDiagnostics setting name item m rest
    | none => located m setting do return (← diagnosticsOf (.ofList text), rest)
  | .mappingStart tag =>
    match ownTag? tag with
    | some name => taggedDiagnostics setting name item m rest
    | none => untagged .mapping
  | .sequenceStart tag =>
    match ownTag? tag with
    | some name => taggedDiagnostics setting name item m rest
    | none => untagged .sequence
  | _ => .error .noValue

/-- Only a plain scalar is a truth value, or a literal one with the tag for that. -/
def readFlag (setting : Option String) (item : Item) (m : Mark) (rest : Items) : Read (Bool × Items) :=
  located m setting do
    match item with
    | .scalar tag text style =>
      if style = .plain || (style = .literal && tag = some (coreTag "bool")) then
        match bool? text with
        | some b => return (b, rest)
        | none => .error (unexpected "a boolean" item)
      else .error (unexpected "a boolean" item)
    | item => .error (unexpected "a boolean" item)

def skipValue (d : Document) (depth : Nat) : Items → Read Items
  | [] => .error (ended d)
  | (item, _) :: rest =>
    match item with
    | .sequenceStart _ | .mappingStart _ => skipValue d (depth + 1) rest
    | .sequenceEnd | .mappingEnd => if depth ≤ 1 then .ok rest else skipValue d (depth - 1) rest
    | .reference _ | .scalar .. | .void => if depth = 0 then .ok rest else skipValue d depth rest

structure Settings where
  diagnostics : Option Diagnostics
  reset : Option Bool

def duplicate (name : String) : Failure := .mismatch (.duplicateField name) none

def missing (name : String) : Failure := .mismatch (.missingField name) none

/-- Reads the value of a setting. A key that is an alias has no name in the text. -/
def setting (d : Document) (s : Settings) (name : String) (place : Option String) (items : Items) :
    Read (Settings × Items) :=
  match name with
  | "replay_diagnostics" =>
    if s.diagnostics.isSome then .error (duplicate name)
    else do
      let (v, rest) ← tagged items
      return ({ s with diagnostics := some v }, rest)
  | "reset_slot_on_finish" =>
    if s.reset.isSome then .error (duplicate name)
    else do
      let (v, rest) ← resolving d place (readFlag place) items
      return ({ s with reset := some v }, rest)
  | _ => do return (s, ← skipValue d 0 items)
where
  tagged (items : Items) : Read (Diagnostics × Items) := do
    match items with
    | (.reference _, _) :: _ => resolving d place (readDiagnostics place) items
    | _ =>
      let (item, m, rest) ← next d items
      readDiagnostics place item m rest

def settings (d : Document) (s : Settings) (items : Items) : Read (Settings × Items) :=
  match items with
  | [] => .error (ended d)
  | (.mappingEnd, _) :: _ | (.void, _) :: _ => .ok (s, items)
  | (item, _) :: behind => do
    let (name, rest) ← resolving d none readKey items
    let place := match item with
      | .scalar .. => name
      | _ => "?"
    let (s, rest) ← setting d s name (some place) rest
    if rest.length ≤ behind.length then settings d s rest else .error (ended d)
termination_by items.length
decreasing_by simp only [List.length_cons]; omega

def complete (s : Settings) : Read Config :=
  match s.diagnostics, s.reset with
  | none, _ => .error (missing "replay_diagnostics")
  | _, none => .error (missing "reset_slot_on_finish")
  | some diagnostics, some reset => .ok ⟨diagnostics, reset⟩

def isEmptyPlain : Item → Bool
  | .void => true
  | .scalar _ [] .plain => true
  | _ => false

def ofItems (d : Document) : Read Config := do
  let (item, m, rest) ← next d d.items
  located m none do
    match item with
    | .mappingStart _ =>
      let (s, _) ← settings d ⟨none, none⟩ rest
      complete s
    | item =>
      if isEmptyPlain item then complete ⟨none, none⟩
      else .error (unexpected "struct Config" item)

def ofDocument (d : Document) : Read Config := do
  let c ← ofItems d
  match d.fault with
  | some f => .error (.fault f)
  | none => if d.followed then .error .manyDocuments else return c

def ofText (s : String) : Read Config := ofDocument (.ofText s)

end Config

end Facet
