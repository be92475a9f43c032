import Facet.Decoding.Mismatch
import Facet.Json.Basic
import Facet.Value.Ty

namespace Facet

open Number Decoding

def Json.found : Json → Found
  | .null => .absent
  | .bool b => .bool b
  | .integer n => .integer n
  | .real x => .real x
  | .string s => .string s
  | .array _ => .sequence
  | .object _ => .mapping

def Json.refuse {α : Type} (j : Json) (expected : String) : Except Mismatch α :=
  .error (.type j.found expected)

def Json.asString (expected : String) : Json → Except Mismatch String
  | .string s => .ok s
  | j => j.refuse expected

def Json.asWord (w : Width) : Json → Except Mismatch (Word w)
  | .integer n =>
    match Word.ofInt? w n with
    | some a => .ok a
    | none => .error (.value (.integer n) w.name)
  | j => j.refuse w.name

def Format.expecting : Format → String
  | .single => "f32"
  | .double => "f64"

def Json.asReal (f : Format) : Json → Except Mismatch (Binary f)
  | .real x => .ok (x.convert f)
  | .integer n => .ok (.ofInt f n)
  | j => j.refuse (Format.expecting f)

def Json.asOption {α : Type} (decode : Json → Except Mismatch α) : Json → Except Mismatch (Option α)
  | .null => .ok none
  | j => (decode j).map some

def decodeAll {α β : Type} (decode : α → Except Mismatch β) : List α → Except Mismatch (List β)
  | [] => .ok []
  | a :: as =>
    match decode a with
    | .error e => .error e
    | .ok b =>
      match decodeAll decode as with
      | .error e => .error e
      | .ok bs => .ok (b :: bs)

def decodePair {α β : Type} (whole : String) (first : Json → Except Mismatch α)
    (second : Json → Except Mismatch β) (items : List Json) : Except Mismatch (α × β) :=
  match items with
  | [] => .error (.length 0 whole)
  | a :: rest =>
    match first a with
    | .error e => .error e
    | .ok x =>
      match rest with
      | [] => .error (.length 1 whole)
      | b :: more =>
        match second b with
        | .error e => .error e
        | .ok y =>
          if more.isEmpty then .ok (x, y) else .error (.length items.length "fewer elements in array")

def readField {α : Type} (name : String) (decode : Json → Except Mismatch α) (j : Json) :
    Option α → Except Mismatch (Option α)
  | some _ => .error (.duplicateField name)
  | none => (decode j).map some

def readFields {α β : Type} (first : String) (decodeFirst : Json → Except Mismatch α)
    (second : String) (decodeSecond : Json → Except Mismatch β) :
    List (String × Json) → Option α → Option β → Except Mismatch (Option α × Option β)
  | [], a, b => .ok (a, b)
  | (k, j) :: rest, a, b =>
    if k = first then
      match readField first decodeFirst j a with
      | .error e => .error e
      | .ok a => readFields first decodeFirst second decodeSecond rest a b
    else if k = second then
      match readField second decodeSecond j b with
      | .error e => .error e
      | .ok b => readFields first decodeFirst second decodeSecond rest a b
    else readFields first decodeFirst second decodeSecond rest a b

def require {α : Type} (name : String) : Option α → Except Mismatch α
  | some a => .ok a
  | none => .error (.missingField name)

def decodeLabel : Json → Except Mismatch (Option String) := Json.asOption (Json.asString "a string")

namespace Point

def whole : String := "struct Point with 2 elements"

/-- An absent label may be left out. -/
def decode : Json → Except Mismatch Point
  | .array items => (decodePair whole (Json.asReal .double) decodeLabel items).map fun p => ⟨p.1, p.2⟩
  | .object fields =>
    match readFields "x" (Json.asReal .double) "label" decodeLabel fields none none with
    | .error e => .error e
    | .ok (x, label) => (require "x" x).map fun x => ⟨x, label.getD none⟩
  | j => j.refuse "struct Point"

end Point

namespace Masked

def ofNote (note : Option String) : Masked := ⟨⟨0, Width.u32.holds_zero⟩, note⟩

def readNote : List (String × Json) → Option (Option String) → Except Mismatch (Option (Option String))
  | [], note => .ok note
  | (k, j) :: rest, note =>
    if k = "note" then
      match readField "note" decodeLabel j note with
      | .error e => .error e
      | .ok note => readNote rest note
    else readNote rest note

def decode : Json → Except Mismatch Masked
  | .array [] => .error (.length 0 "struct Masked with 1 element")
  | .array (a :: more) =>
    match decodeLabel a with
    | .error e => .error e
    | .ok note =>
      if more.isEmpty then .ok (ofNote note)
      else .error (.length (more.length + 1) "fewer elements in array")
  | .object fields => (readNote fields none).map fun note => ofNote (note.getD none)
  | j => j.refuse "struct Masked"

end Masked

def Json.asVariant : Json → Except Mismatch (String × Option Json)
  | .string s => .ok (s, none)
  | .object [(name, content)] => .ok (name, some content)
  | .object _ => .error (.value .mapping "map with a single key")
  | j => j.refuse "string or map"

def readBare : Option Json → Except Mismatch Unit
  | none | some .null => .ok ()
  | some j => j.refuse "unit"

def Locale.decode (j : Json) : Except Mismatch Locale :=
  match j.asVariant with
  | .error e => .error e
  | .ok ("En", content) => (readBare content).map fun _ => .en
  | .ok ("Fr", content) => (readBare content).map fun _ => .fr
  | .ok (name, _) => .error (.unknownVariant name ["En", "Fr"])

namespace Shape

def readCircle : Option Json → Except Mismatch Shape
  | none => .error (.type .bareVariant "newtype variant")
  | some j => (j.asReal .double).map .circle

def readLine : Option Json → Except Mismatch Shape
  | none => .error (.type .bareVariant "tuple variant")
  | some (.array []) => .error (.type .absent "tuple variant Shape::Line")
  | some (.array items) =>
    (decodePair "tuple variant Shape::Line with 2 elements" (Json.asWord .i64) (Json.asWord .i64)
      items).map fun p => .line p.1 p.2
  | some j => j.refuse "tuple variant"

def readRect : Option Json → Except Mismatch Shape
  | none => .error (.type .bareVariant "struct variant")
  | some (.object fields) =>
    match readFields "w" (Json.asReal .double) "h" (Json.asReal .double) fields none none with
    | .error e => .error e
    | .ok (w, h) =>
      match require "w" w, require "h" h with
      | .error e, _ => .error e
      | _, .error e => .error e
      | .ok w, .ok h => .ok (.rect w h)
  | some j => j.refuse "struct variant"

def decode (j : Json) : Except Mismatch Shape :=
  match j.asVariant with
  | .error e => .error e
  | .ok ("Dot", content) => (readBare content).map fun _ => .dot
  | .ok ("Circle", content) => readCircle content
  | .ok ("Line", content) => readLine content
  | .ok ("Rect", content) => readRect content
  | .ok (name, _) => .error (.unknownVariant name ["Dot", "Circle", "Line", "Rect"])

end Shape

def Ty.decode : (t : Ty) → Json → Except Mismatch t.Val
  | .str, j => j.asString "a borrowed string"
  | .string, j => j.asString "a string"
  | .name, j => (j.asString "a string").map .mk
  | .char, .string s =>
    match s.toList with
    | [c] => .ok c
    | _ => .error (.value (.string s) "a character")
  | .char, j => j.refuse "a character"
  | .bool, .bool b => .ok b
  | .bool, j => j.refuse "a boolean"
  | .unit, .null => .ok ()
  | .unit, j => j.refuse "unit"
  | .int w, j => j.asWord w
  | .real f, j => j.asReal f
  | .option t, j => j.asOption t.decode
  | .list t, .array items => decodeAll t.decode items
  | .list _, j => j.refuse "a sequence"
  | .pair s t, .array items => decodePair "a tuple of size 2" s.decode t.decode items
  | .pair _ _, j => j.refuse "a tuple of size 2"
  | .table t, .object fields =>
    (decodeAll (fun e => (t.decode e.2).map (e.1, ·)) fields).map Table.ofList
  | .table _, j => j.refuse "a map"
  | .byteTable _, .object [] => .ok .empty
  | .byteTable _, .object ((k, _) :: _) => .error (.type (.string k) "a sequence")
  | .byteTable _, j => j.refuse "a map"
  | .point, j => Point.decode j
  | .shape, j => Shape.decode j
  | .locale, j => Locale.decode j
  | .path, j => (j.asString "path string").map .mk
  | .trunc, j => (j.asWord .i64).map fun n => ⟨.ofInt .double n.val⟩
  | .drift, j => (j.asWord .i64).map .mk
  | .veiled, j => (j.asWord .i64).map .mk
  | .masked, j => Masked.decode j

end Facet
