import Facet.Text.Ranges

/-!
Functions on code points that are constant on long runs. A table is written as lines of text, each run
as its first code point in hexadecimal and its label, which starts with a capital letter (`41Lu`).
-/

namespace Facet.Text

structure Runs (α : Type) where
  runs : Array (Nat × α)

namespace Runs

variable {α : Type}

def isHexDigit (c : Char) : Bool := c.isDigit || ('a' ≤ c && c ≤ 'f')

def ofText (label : String → α) (lines : List String) : Runs α :=
  ⟨((lines.flatMap (·.splitOn " ")).map fun s =>
    (Ranges.ofHex (.ofList (s.toList.takeWhile isHexDigit)),
      label (.ofList (s.toList.dropWhile isHexDigit)))).toArray⟩

def search (runs : Array (Nat × α)) (n lo hi : Nat) (found : Option α) : Option α :=
  if lo < hi then
    let mid := (lo + hi) / 2
    match runs[mid]? with
    | none => found
    | some (first, a) =>
      if n < first then search runs n lo mid found
      else search runs n (mid + 1) hi (some a)
  else found
termination_by hi - lo
decreasing_by all_goals omega

def find? (r : Runs α) (c : Char) : Option α := search r.runs c.toNat 0 r.runs.size none

end Runs

end Facet.Text
