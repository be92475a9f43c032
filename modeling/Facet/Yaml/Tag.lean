import Facet.Yaml.Scalar

namespace Facet.Yaml

abbrev Bytes := List UInt8

def bytesOf (cs : List Char) : Bytes := (String.ofList cs).toUTF8.toList

def textOf? (bytes : Bytes) : Option String := String.fromUTF8? ⟨bytes.toArray⟩

structure Tag where
  handle : List Char
  suffix : Bytes

def isUriChar (wide : Bool) (c : Char) : Bool :=
  isAlpha c || ";/?:@&=+$.%!~*'()".toList.contains c || (wide && ",[]".toList.contains c)

def octetCount? (octet : Nat) : Option Nat :=
  if octet < 0x80 then some 1
  else if octet / 0x20 = 6 then some 2
  else if octet / 0x10 = 14 then some 3
  else if octet / 0x08 = 30 then some 4
  else none

/-- Reads the characters of a tag, `found` being its bytes so far, latest first. Of an escaped character
there are `missing` octets still to come. -/
def uriFrom (start : Mark) (activity : Activity) (wide : Bool) (missing : Nat) (found : Bytes)
    (m : Mark) : List Char → Except Fault (Bytes × Source)
  | '%' :: a :: b :: cs =>
    match hexValue? a, hexValue? b with
    | some h, some l =>
      let octet := 16 * h + l
      let next (missing : Nat) : Except Fault (Bytes × Source) :=
        uriFrom start activity wide missing (.ofNat octet :: found) (((m.after '%').after a).after b) cs
      match missing with
      | 0 =>
        match octetCount? octet with
        | none => .error (.during .leadingOctet m activity start)
        | some n => next (n - 1)
      | n + 1 =>
        if octet / 0x40 = 2 then next n else .error (.during .trailingOctet m activity start)
    | _, _ => .error (.during .octetMissing m activity start)
  | c :: cs =>
    if missing ≠ 0 ∨ c = '%' then .error (.during .octetMissing m activity start)
    else if isUriChar wide c then
      uriFrom start activity wide 0 (bytesOf [c] ++ found) (m.after c) cs
    else .ok (found.reverse, ⟨m, c :: cs⟩)
  | [] =>
    if missing ≠ 0 then .error (.during .octetMissing m activity start)
    else .ok (found.reverse, ⟨m, []⟩)

def uri (start : Mark) (activity : Activity) (wide : Bool) (head : List Char) (s : Source) :
    Except Fault (Bytes × Source) := do
  let (bytes, s') ← uriFrom start activity wide 0 (bytesOf head.tail).reverse s.mark s.rest
  if head.isEmpty && s'.mark = s.mark then .error (.during .tagEmpty s.mark activity start)
  else return (bytes, s')

def handle (start : Mark) (directive : Bool) (s : Source) : Except Fault (List Char × Source) :=
  match s.rest with
  | '!' :: _ =>
    let (name, s) := s.skip.take isAlpha
    match s.rest with
    | '!' :: _ => .ok ('!' :: name ++ ['!'], s.skip)
    | _ =>
      if directive && !name.isEmpty then .error (.during .tagMarkMissing s.mark .directiveHandle start)
      else .ok ('!' :: name, s)
  | _ =>
    .error (.during .tagMarkMissing s.mark (if directive then .directiveMark else .tag) start)

def tagBody (start : Mark) (s : Source) : Except Fault (Tag × Source) :=
  match s.rest with
  | '!' :: '<' :: _ => do
    let (suffix, s) ← uri start .tagUri true [] s.skip.skip
    if s.rest.head? = some '>' then return (⟨[], suffix⟩, s.skip)
    else .error (.during .tagNotClosed s.mark .tag start)
  | _ => do
    let (name, s) ← handle start false s
    if 1 < name.length && name.getLast? = some '!' then
      let (suffix, s) ← uri start .tagUri false [] s
      return (⟨name, suffix⟩, s)
    else
      let (suffix, s) ← uri start .tagUri false name s
      return (if suffix.isEmpty then ⟨[], bytesOf ['!']⟩ else ⟨['!'], suffix⟩, s)

def tag (inFlow : Bool) (s : Source) : Except Fault (Tag × Source) := do
  let (t, s') ← tagBody s.mark s
  if atBlank s'.rest || (inFlow && s'.rest.head? = some ',') then return (t, s')
  else .error (.during .blankOrBreakMissing s'.mark .tag s.mark)

def anchorName (activity : Activity) (s : Source) : Except Fault (List Char × Source) :=
  let (name, s') := s.skip.take isAlpha
  if !name.isEmpty && (atBlank s'.rest || (s'.rest.head?.any fun c => "?:,]\x7d%@`".toList.contains c))
  then .ok (name, s')
  else .error (.during .nameMissing s'.mark activity s.mark)

inductive Directive
  | version : (major minor : Nat) → Directive
  | tag : (handle : List Char) → (uri : Bytes) → Directive

def versionNumber (start : Mark) (s : Source) : Except Fault (Nat × Source) :=
  let (digits, s') := s.take Char.isDigit
  if 9 < digits.length then
    .error (.during .versionLong (s.skipMany 9).mark .versionDirective start)
  else if digits.isEmpty then .error (.during .versionMissing s'.mark .versionDirective start)
  else .ok (digits.foldl (fun n c => 10 * n + (c.toNat - '0'.toNat)) 0, s')

def versionDirective (start : Mark) (s : Source) : Except Fault (Directive × Source) := do
  let (major, s) ← versionNumber start s.skipBlanks
  if s.rest.head? = some '.' then
    let (minor, s) ← versionNumber start s.skip
    return (.version major minor, s)
  else .error (.during .versionDot s.mark .versionDirective start)

def tagDirective (start : Mark) (s : Source) : Except Fault (Directive × Source) := do
  let (name, s) ← handle start true s.skipBlanks
  if s.rest.head?.any isBlank then
    let (bytes, s) ← uri start .directivePrefix true [] s.skipBlanks
    if atBlank s.rest then return (.tag name bytes, s)
    else .error (.during .blankOrBreakMissing s.mark .tagDirective start)
  else .error (.during .blankMissing s.mark .tagDirective start)

def directive (s : Source) : Except Fault (Directive × Source) := do
  let start := s.mark
  let (name, s) := s.skip.take isAlpha
  if name.isEmpty then .error (.during .directiveUnnamed s.mark .directive start)
  else if !atBlank s.rest then .error (.during .directiveLetter s.mark .directive start)
  else
    let (d, s) ← match String.ofList name with
      | "YAML" => versionDirective start s
      | "TAG" => tagDirective start s
      | _ => .error (.during .directiveUnknown s.mark .directive start)
    let s := s.skipBlanks.skipComment
    if atBreak s.rest then return (d, s.skip)
    else .error (.during .lineNotEnded s.mark .directive start)

end Facet.Yaml
