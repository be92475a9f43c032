import Facet.Pattern.Regex.Class

namespace Facet.Pattern

open Text

inductive Flag
  | ignoreCase | multiLine | dotAll | swapGreed | unicode | crlf | extended
  deriving DecidableEq

def Flag.ofChar? : Char → Option Flag
  | 'i' => some .ignoreCase
  | 'm' => some .multiLine
  | 's' => some .dotAll
  | 'U' => some .swapGreed
  | 'u' => some .unicode
  | 'R' => some .crlf
  | 'x' => some .extended
  | _ => none

structure Modes where
  ignoreCase : Bool
  multiLine : Bool
  dotAll : Bool
  unicode : Bool
  crlf : Bool
  extended : Bool
  deriving DecidableEq

namespace Modes

def initial : Modes := ⟨false, false, false, true, false, false⟩

/-- Greed decides which match is found first, not whether there is one. -/
def set (m : Modes) : Flag → Bool → Modes
  | .ignoreCase, b => { m with ignoreCase := b }
  | .multiLine, b => { m with multiLine := b }
  | .dotAll, b => { m with dotAll := b }
  | .swapGreed, _ => m
  | .unicode, b => { m with unicode := b }
  | .crlf, b => { m with crlf := b }
  | .extended, b => { m with extended := b }

def setAll (m : Modes) (flags : List (Flag × Bool)) : Modes :=
  flags.foldl (fun m (flag, b) => m.set flag b) m

def isBlank (c : Char) : Bool := Property.blank.contains c

def skipBlanks : (comment : Bool) → List Char → List Char
  | _, [] => []
  | true, c :: cs => skipBlanks (c != '\n') cs
  | false, c :: cs =>
    if isBlank c then skipBlanks false cs else if c = '#' then skipBlanks true cs else c :: cs

def skip (m : Modes) (cs : List Char) : List Char := if m.extended then skipBlanks false cs else cs

theorem length_skipBlanks_le (comment : Bool) (cs : List Char) :
    (skipBlanks comment cs).length ≤ cs.length := by
  fun_induction skipBlanks comment cs <;> simp_all <;> omega

theorem length_skip_le (m : Modes) (cs : List Char) : (m.skip cs).length ≤ cs.length := by
  unfold skip
  split
  · exact length_skipBlanks_le false cs
  · exact Nat.le_refl _

def collect (m : Modes) (stop : Char) : (comment : Bool) → List Char → Option (List Char × List Char)
  | _, [] => none
  | true, c :: cs => m.collect stop (c != '\n') cs
  | false, c :: cs =>
    if m.extended && isBlank c then m.collect stop false cs
    else if m.extended && c == '#' then m.collect stop true cs
    else if c = stop then some ([], cs)
    else (m.collect stop false cs).map fun (inside, rest) => (c :: inside, rest)

def peek (m : Modes) (cs : List Char) : Option Char :=
  if m.extended then go false cs else cs.head?
where
  go : Bool → List Char → Option Char
  | _, [] => none
  | comment, c :: cs =>
    if isBlank c then go comment cs
    else if !comment && c == '#' then go true cs
    else some c

def fold (m : Modes) (a : CharSet) : CharSet :=
  if m.ignoreCase then if m.unicode then a.fold else a.foldAscii else a

def compl? (m : Modes) (negated : Bool) (a : CharSet) : Option CharSet :=
  if negated then if m.unicode then some a.compl else none else some a

/-- A literal; `byte` says that it was written as a number of two digits, which outside Unicode mode
stands for a byte. -/
def literal? (m : Modes) (byte : Bool) (c : Char) : Option CharSet :=
  if byte && !m.unicode && 0x80 ≤ c.val then none else some (m.fold (.one c))

def dot? (m : Modes) : Option CharSet :=
  if !m.unicode then none
  else if m.dotAll then some fun _ => true
  else if m.crlf then some fun c => c != '\r' && c != '\n'
  else some (· != '\n')

def digit (m : Modes) : CharSet := if m.unicode then .digit else .asciiDigit

def space (m : Modes) : CharSet := if m.unicode then .space else .asciiSpace

def word (m : Modes) : CharSet := if m.unicode then .word else .asciiWord

def property? (m : Modes) (negated : Bool) (named : Option CharSet) : Option CharSet :=
  if m.unicode then named.bind fun a => m.compl? negated (m.fold a) else none

def caret (m : Modes) : Boundary :=
  if !m.multiLine then .textStart else if m.crlf then .anyLineStart else .lineStart

def dollar (m : Modes) : Boundary :=
  if !m.multiLine then .textEnd else if m.crlf then .anyLineEnd else .lineEnd

end Modes

end Facet.Pattern
