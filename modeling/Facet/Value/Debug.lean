import Facet.Number.Style
import Facet.Text.Quoted
import Facet.Value.Ty

namespace Facet

open Number

def debugOption {α : Type} (debug : α → String) : Option α → String
  | none => "None"
  | some a => "Some(" ++ debug a ++ ")"

def debugList {α : Type} (debug : α → String) (as : List α) : String :=
  "[" ++ ", ".intercalate (as.map debug) ++ "]"

def debugTable {K V : Type} (key : K → String) (value : V → String) (es : List (K × V)) : String :=
  "\x7b" ++ ", ".intercalate (es.map fun e => key e.1 ++ ": " ++ value e.2) ++ "\x7d"

def debugReal {f : Format} (x : Binary f) : String := Style.plain.write x

def Shape.debug : Shape → String
  | .dot => "Dot"
  | .circle r => "Circle(" ++ debugReal r ++ ")"
  | .line a b => "Line(" ++ toString a.val ++ ", " ++ toString b.val ++ ")"
  | .rect w h => "Rect \x7b w: " ++ debugReal w ++ ", h: " ++ debugReal h ++ " \x7d"

namespace Ty

def debug : (t : Ty) → t.Val → String
  | .str, s => Text.quote s
  | .string, s => Text.quote s
  | .name, n => n.text
  | .char, c => Text.quoteChar c
  | .bool, b => if b then "true" else "false"
  | .unit, _ => "()"
  | .int _, n => toString n.val
  | .real _, x => debugReal x
  | .option t, a => debugOption t.debug a
  | .list t, as => debugList t.debug as
  | .pair s t, a => "(" ++ s.debug a.1 ++ ", " ++ t.debug a.2 ++ ")"
  | .table t, a => debugTable Text.quote t.debug a.entries
  | .byteTable t, a => debugTable (debugList (toString ·.toNat)) t.debug a.entries
  | .point, p =>
    "Point \x7b x: " ++ debugReal p.x ++ ", label: " ++ debugOption Text.quote p.label ++ " \x7d"
  | .shape, s => s.debug
  | .locale, .en => "En"
  | .locale, .fr => "Fr"
  | .path, p => Text.quote p.text
  | .trunc, a => "Trunc(" ++ debugReal a.val ++ ")"
  | .drift, a => "Drift(" ++ toString a.val.val ++ ")"
  | .veiled, _ => "\"opaque\""
  | .masked, a =>
    "Masked \x7b secret: " ++ toString a.secret.val ++ ", note: " ++ debugOption Text.quote a.note ++
      " \x7d"

def isLiteral : Ty → Bool
  | .str | .string | .char => true
  | _ => false

def bracket (text : String) : String := "<" ++ text ++ ">"

def render (t : Ty) (a : t.Val) : String :=
  if t.isLiteral then t.debug a else bracket (t.debug a)

end Ty

inductive Holder
  | plain | reference | exclusive | box
  deriving DecidableEq

/-- Only shared references are seen through; any other holder of a string is not a string itself. -/
def Holder.render (h : Holder) (t : Ty) (a : t.Val) : String :=
  match h with
  | .plain | .reference => t.render a
  | .exclusive | .box => Ty.bracket (t.debug a)

end Facet
