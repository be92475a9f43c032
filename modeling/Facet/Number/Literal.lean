import Facet.Number.Binary

namespace Facet.Number

def digitValue (c : Char) : Nat :=
  if c.isDigit then c.toNat - '0'.toNat
  else if c.isLower then c.toNat - 'a'.toNat + 10
  else if c.isUpper then c.toNat - 'A'.toNat + 10
  else 36

def natOfDigits (radix : Nat) (cs : List Char) : Nat :=
  cs.foldl (fun n c => radix * n + digitValue c) 0

def readNat? (radix : Nat) (cs : List Char) : Option Nat :=
  if cs.isEmpty || cs.any (radix ≤ digitValue ·) then none else some (natOfDigits radix cs)

def readInt? (radix : Nat) : List Char → Option Int
  | '-' :: cs => (readNat? radix cs).map (-·)
  | '+' :: cs => (readNat? radix cs).map (·)
  | cs => (readNat? radix cs).map (·)

def readExponent? : List Char → Option Int
  | [] => some 0
  | c :: cs => if c = 'e' ∨ c = 'E' then readInt? 10 cs else none

def readUnsigned? (f : Format) (negative : Bool) (cs : List Char) : Option (Binary f) :=
  let whole := cs.takeWhile Char.isDigit
  let rest := cs.dropWhile Char.isDigit
  let (fraction, rest) := match rest with
    | '.' :: ds => (ds.takeWhile Char.isDigit, ds.dropWhile Char.isDigit)
    | _ => ([], rest)
  let digits := whole ++ fraction
  if digits.isEmpty then none
  else (readExponent? rest).map fun x =>
    .ofDecimal f negative (natOfDigits 10 digits) (x - fraction.length)

def Binary.read? (f : Format) (s : String) : Option (Binary f) :=
  let (negative, cs) := match s.toList with
    | '-' :: cs => (true, cs)
    | '+' :: cs => (false, cs)
    | cs => (false, cs)
  match String.ofList (cs.map Char.toLower) with
  | "nan" => some .nan
  | "inf" | "infinity" => some (.infinite negative)
  | _ => readUnsigned? f negative cs

end Facet.Number
