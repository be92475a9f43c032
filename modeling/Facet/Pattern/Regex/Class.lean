import Facet.Text.CaseOrbit
import Facet.Text.Property
import Facet.Text.Script

namespace Facet.Pattern

open Text

abbrev CharSet := Char → Bool

namespace CharSet

def none : CharSet := fun _ => false

def one (c : Char) : CharSet := (· == c)

def range (first last : Char) : CharSet := fun c => first ≤ c && c ≤ last

def union (a b : CharSet) : CharSet := fun c => a c || b c

def compl (a : CharSet) : CharSet := fun c => !a c

def fold (a : CharSet) : CharSet := fun c => a c || (CaseOrbit.of c).any a

def foldAscii (a : CharSet) : CharSet := fun c => a c || a c.toUpper || a c.toLower

def asciiDigit : CharSet := range '0' '9'

def asciiAlnum : CharSet := fun c => c.isAlphanum

def asciiWord : CharSet := fun c => c.isAlphanum || c == '_'

def asciiSpace : CharSet := fun c => c == ' ' || range '\t' '\r' c

def ascii? : String → Option CharSet
  | "alnum" => some asciiAlnum
  | "alpha" => some fun c => c.isAlpha
  | "ascii" => some (range '\x00' '\x7f')
  | "blank" => some fun c => c == ' ' || c == '\t'
  | "cntrl" => some fun c => range '\x00' '\x1f' c || c == '\x7f'
  | "digit" => some asciiDigit
  | "graph" => some (range '!' '~')
  | "lower" => some (range 'a' 'z')
  | "print" => some (range ' ' '~')
  | "punct" => some fun c => range '!' '~' c && !c.isAlphanum
  | "space" => some asciiSpace
  | "upper" => some (range 'A' 'Z')
  | "word" => some asciiWord
  | "xdigit" => some fun c => c.isDigit || range 'a' 'f' c || range 'A' 'F' c
  | _ => Option.none

def digit : CharSet := fun c => Category.of c == .nd

def space : CharSet := Property.blank.contains

def word : CharSet := fun c =>
  Property.isAlphabetic c || (Category.of c).isMark || Category.of c == .nd || Category.of c == .pc ||
    Property.joinControl.contains c

/-- The name of a property as it is compared: without case, blanks, lines and a leading `is`. What is
left of `isc` is not the category `c`. -/
def looseName (name : List Char) : String :=
  let plain (cs : List Char) : String :=
    .ofList ((cs.filter fun c => c.val < 0x80 && !(c == ' ' || c == '_' || c == '-')).map Char.toLower)
  match name with
  | i :: s :: rest =>
    if i.toLower = 'i' ∧ s.toLower = 's' then
      if plain rest = "c" then "isc" else plain rest
    else plain name
  | _ => plain name

def category? : String → Option CharSet
  | "ascii" => some (range '\x00' '\x7f')
  | name => (Category.named? name).map fun p c => p (Category.of c)

def script? (name : String) : Option CharSet :=
  (Script.named? name).map fun code c => Script.of c == code

def scriptExtensions? (name : String) : Option CharSet :=
  (Script.named? name).map fun code c => (Script.extensions c).contains code

def named? (name : List Char) : Option CharSet :=
  let name := looseName name
  Property.named? name <|> category? name <|> script? name

def valued? (name value : List Char) : Option CharSet :=
  match looseName name with
  | "gc" | "generalcategory" => category? (looseName value)
  | "sc" | "script" => script? (looseName value)
  | "scx" | "scriptextensions" => scriptExtensions? (looseName value)
  | _ => Option.none

end CharSet

abbrev Boundary := Option Char → Option Char → Bool

namespace Boundary

def textStart : Boundary := fun last _ => last.isNone

def textEnd : Boundary := fun _ next => next.isNone

def lineStart : Boundary := fun last _ => last.isNone || last == some '\n'

def lineEnd : Boundary := fun _ next => next.isNone || next == some '\n'

def anyLineStart : Boundary := fun last next =>
  last.isNone || last == some '\n' || (last == some '\r' && next != some '\n')

def anyLineEnd : Boundary := fun last next =>
  next.isNone || next == some '\r' || (next == some '\n' && last != some '\r')

def wordEdge (w : CharSet) : Boundary := fun last next => last.any w != next.any w

def noWordEdge (w : CharSet) : Boundary := fun last next => last.any w == next.any w

def wordStart (w : CharSet) : Boundary := fun last next => !last.any w && next.any w

def wordEnd (w : CharSet) : Boundary := fun last next => last.any w && !next.any w

def afterNonWord (w : CharSet) : Boundary := fun last _ => !last.any w

def beforeNonWord (w : CharSet) : Boundary := fun _ next => !next.any w

end Boundary

end Facet.Pattern
