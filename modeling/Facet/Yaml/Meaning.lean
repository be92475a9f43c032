import Facet.Decoding.Mismatch
import Facet.Number.Literal
import Facet.Number.Word
import Facet.Yaml.Document

namespace Facet.Yaml

open Number Decoding

def isNull (text : List Char) : Bool :=
  ["null", "Null", "NULL", "~"].contains (String.ofList text)

def bool? (text : List Char) : Option Bool :=
  match String.ofList text with
  | "true" | "True" | "TRUE" => some true
  | "false" | "False" | "FALSE" => some false
  | _ => none

def isSign (c : Char) : Bool := c = '+' || c = '-'

def dropSign : List Char → List Char
  | c :: cs => if isSign c then cs else c :: cs
  | [] => []

def isPaddedDigits (text : List Char) : Bool :=
  match dropSign text with
  | '0' :: d :: ds => (d :: ds).all Char.isDigit
  | _ => false

def magnitude? : List Char → Option Nat
  | '0' :: 'x' :: cs => readNat? 16 cs
  | '0' :: 'o' :: cs => readNat? 8 cs
  | '0' :: 'b' :: cs => readNat? 2 cs
  | cs => if isPaddedDigits cs then none else readNat? 10 cs

def int? : List Char → Option Int
  | '-' :: cs => (magnitude? cs).map (-·)
  | '+' :: cs => (magnitude? cs).map (·)
  | cs => (magnitude? cs).map (·)

def integer? (text : List Char) : Option Found :=
  match int? text with
  | none => none
  | some n =>
    if Width.i64.least ≤ n ∧ n ≤ Width.u64.greatest then some (.integer n)
    else if 0 ≤ n ∧ n ≤ 0xFFFF_FFFF_FFFF_FFFF_FFFF_FFFF_FFFF_FFFF then some (.wide n "u128")
    else if Width.i128.least ≤ n ∧ n < 0 then some (.wide n "i128")
    else none

def isInfinity (text : List Char) : Bool := [".inf", ".Inf", ".INF"].contains (String.ofList text)

def real? (text : List Char) : Option (Binary .double) :=
  let positive := match text with
    | '+' :: cs => cs
    | cs => cs
  if text.head? = some '+' && positive.head?.any isSign then none
  else if isInfinity positive then some (.infinite false)
  else if text.head? = some '-' && isInfinity text.tail then some (.infinite true)
  else if [".nan", ".NaN", ".NAN"].contains (String.ofList text) then some .nan
  else
    match Binary.read? .double (.ofList positive) with
    | some (.finite s m e h) => some (.finite s m e h)
    | _ => none

def plainMeaning (text : List Char) : Found :=
  if text.isEmpty || isNull text then .absent
  else
    match bool? text, integer? text with
    | some b, _ => .bool b
    | none, some found => found
    | none, none =>
      if isPaddedDigits text then .string (.ofList text)
      else
        match real? text with
        | some x => .real x
        | none => .string (.ofList text)

def coreTag (name : String) : Bytes := bytesOf ("tag:yaml.org,2002:" ++ name).toList

def ownTag? (tag : Option Bytes) : Option String :=
  match tag with
  | some (33 :: rest) => textOf? (if rest.isEmpty then [33] else rest)
  | _ => none

/-- Why a scalar is not what was expected. A scalar that its tag does not fit is a mismatch of its own. -/
def scalarMismatch (tag : Option Bytes) (text : List Char) (style : Style) (expected : String) : Mismatch :=
  let given (found : Option Found) (kind : String) : Mismatch :=
    match found with
    | some found => .type found expected
    | none => .value (.string (.ofList text)) kind
  match tag with
  | none => .type (if style = .plain then plainMeaning text else .string (.ofList text)) expected
  | some t =>
    if t = coreTag "bool" then given ((bool? text).map .bool) "a boolean"
    else if t = coreTag "int" then given (integer? text) "an integer"
    else if t = coreTag "float" then given ((real? text).map .real) "a float"
    else if t = coreTag "null" then given (if isNull text then some .absent else none) "null"
    else if t.head? = some 33 && style = .plain then .type (plainMeaning text) expected
    else .type (.string (.ofList text)) expected

end Facet.Yaml
