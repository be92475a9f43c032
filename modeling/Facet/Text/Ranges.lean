/-!
Sets of code points as sorted, disjoint, inclusive ranges. A table is written as lines of text, its
ranges in hexadecimal (`41-5a 5f`), and read once.
-/

namespace Facet.Text

structure Ranges where
  bounds : Array (Nat × Nat)

namespace Ranges

def hexDigit (c : Char) : Nat :=
  if c.isDigit then c.toNat - '0'.toNat else c.toNat - 'a'.toNat + 10

def ofHex (s : String) : Nat :=
  s.toList.foldl (fun n c => 16 * n + hexDigit c) 0

/-- One code point `5f`, or all from the first to the last of `41-5a`. -/
def boundsOfText (s : String) : Nat × Nat :=
  match s.splitOn "-" with
  | [first, last] => (ofHex first, ofHex last)
  | _ => (ofHex s, ofHex s)

def ofText (lines : List String) : Ranges :=
  ⟨(lines.flatMap (·.splitOn " ")).toArray.map boundsOfText⟩

def search (bounds : Array (Nat × Nat)) (n lo hi : Nat) : Bool :=
  if lo < hi then
    let mid := (lo + hi) / 2
    match bounds[mid]? with
    | none => false
    | some (first, last) =>
      if n < first then search bounds n lo mid
      else if last < n then search bounds n (mid + 1) hi
      else true
  else false
termination_by hi - lo
decreasing_by all_goals omega

def contains (r : Ranges) (c : Char) : Bool :=
  search r.bounds c.toNat 0 r.bounds.size

end Ranges

end Facet.Text
