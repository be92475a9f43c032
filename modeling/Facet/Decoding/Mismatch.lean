import Facet.Number.Style
import Facet.Text.Quoted

namespace Facet.Decoding

open Number

inductive Found
  | absent
  | bool : Bool → Found
  | integer : Int → Found
  /-- An integer too wide for 64 bits, with the name of its width. -/
  | wide : Int → (width : String) → Found
  | real : Binary .double → Found
  | string : String → Found
  | sequence
  | mapping
  | bareVariant

structure Wording where
  absent : String
  real : Style

def Wording.json : Wording := ⟨"null", .encoded⟩

def Wording.yaml : Wording := ⟨"unit value", .full⟩

def tick (s : String) : String := "`" ++ s ++ "`"

def Found.text (w : Wording) : Found → String
  | .absent => w.absent
  | .bool b => "boolean " ++ tick (if b then "true" else "false")
  | .integer n => "integer " ++ tick (toString n)
  | .wide n width => "integer " ++ tick (toString n) ++ " as " ++ width
  | .real x => "floating point " ++ tick (w.real.write x)
  | .string s => "string " ++ Text.quote s
  | .sequence => "sequence"
  | .mapping => "map"
  | .bareVariant => "unit variant"

inductive Mismatch
  | type : Found → (expected : String) → Mismatch
  | value : Found → (expected : String) → Mismatch
  | length : Nat → (expected : String) → Mismatch
  | unknownVariant : String → (expected : List String) → Mismatch
  | missingField : String → Mismatch
  | duplicateField : String → Mismatch

def alternatives : List String → String
  | [] => "there are no variants"
  | [a] => "expected " ++ tick a
  | [a, b] => "expected " ++ tick a ++ " or " ++ tick b
  | names => "expected one of " ++ ", ".intercalate (names.map tick)

def Mismatch.message (w : Wording) : Mismatch → String
  | .type found expected => "invalid type: " ++ found.text w ++ ", expected " ++ expected
  | .value found expected => "invalid value: " ++ found.text w ++ ", expected " ++ expected
  | .length n expected => "invalid length " ++ toString n ++ ", expected " ++ expected
  | .unknownVariant name expected => "unknown variant " ++ tick name ++ ", " ++ alternatives expected
  | .missingField name => "missing field " ++ tick name
  | .duplicateField name => "duplicate field " ++ tick name

end Facet.Decoding
