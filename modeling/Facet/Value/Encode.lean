import Facet.Json.Basic
import Facet.Value.Ty

namespace Facet

open Number

inductive Unencodable
  | numberOutOfRange
  | keyMustBeString
  deriving DecidableEq

def Unencodable.message : Unencodable → String
  | .numberOutOfRange => "number out of range"
  | .keyMustBeString => "key must be a string"

def Json.ofInt? (n : Int) : Except Unencodable Json :=
  if Width.i64.least ≤ n ∧ n ≤ Width.u64.greatest then .ok (.integer n)
  else .error .numberOutOfRange

def Json.ofReal {f : Format} (x : Binary f) : Json :=
  if x.isFinite then .real (x.convert .double) else .null

def Json.ofOption {α : Type} (encode : α → Json) : Option α → Json
  | none => .null
  | some a => encode a

def Shape.encode : Shape → Json
  | .dot => .string "Dot"
  | .circle r => .object [("Circle", .ofReal r)]
  | .line a b => .object [("Line", .array [.integer a.val, .integer b.val])]
  | .rect w h => .object [("Rect", .object [("h", .ofReal h), ("w", .ofReal w)])]

def successor (n : Word .i64) : Word .i64 := .wrap .i64 (n.val + 1)

def encodeAll {α β : Type} (encode : α → Except Unencodable β) : List α → Except Unencodable (List β)
  | [] => .ok []
  | a :: as =>
    match encode a with
    | .error e => .error e
    | .ok b =>
      match encodeAll encode as with
      | .error e => .error e
      | .ok bs => .ok (b :: bs)

def Ty.encode : (t : Ty) → t.Val → Except Unencodable Json
  | .str, s => .ok (.string s)
  | .string, s => .ok (.string s)
  | .name, n => .ok (.string n.text)
  | .char, c => .ok (.string (.singleton c))
  | .bool, b => .ok (.bool b)
  | .unit, _ => .ok .null
  | .int _, n => Json.ofInt? n.val
  | .real _, x => .ok (.ofReal x)
  | .option _, none => .ok .null
  | .option t, some a => t.encode a
  | .list t, as => (encodeAll t.encode as).map .array
  | .pair s t, a =>
    match s.encode a.1, t.encode a.2 with
    | .error e, _ => .error e
    | _, .error e => .error e
    | .ok x, .ok y => .ok (.array [x, y])
  | .table t, a => (encodeAll (fun e => (t.encode e.2).map (e.1, ·)) a.entries).map .object
  | .byteTable _, a =>
    match a.entries with
    | [] => .ok (.object [])
    | _ :: _ => .error .keyMustBeString
  | .point, p =>
    .ok (.object [("label", .ofOption .string p.label), ("x", .ofReal p.x)])
  | .shape, s => .ok s.encode
  | .locale, .en => .ok (.string "En")
  | .locale, .fr => .ok (.string "Fr")
  | .path, p => .ok (.string p.text)
  | .trunc, a => .ok (.integer (Word.clamp .i64 (a.val.truncate Width.u64.count)).val)
  | .drift, a => .ok (.integer (successor a.val).val)
  | .veiled, a => .ok (.integer (successor a.val).val)
  | .masked, a => .ok (.object [("note", .ofOption .string a.note)])

end Facet
