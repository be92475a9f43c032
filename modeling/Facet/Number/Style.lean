import Facet.Number.Shortest

namespace Facet.Number

structure Style where
  /-- The exponents of the leading digit that are written with a point and zeros. -/
  positional : Int → Bool
  /-- A whole number ends in `.0`. -/
  pointed : Bool
  /-- An exponent that is not negative has a plus sign. -/
  signed : Bool
  tie : Tie

namespace Style

def plain : Style where
  positional x := -5 < x && x < 16
  pointed := true
  signed := false
  tie := .up

def full : Style where
  positional _ := true
  pointed := true
  signed := false
  tie := .up

def encoded : Style where
  positional x := -6 < x && x < 16
  pointed := true
  signed := true
  tie := .even

def place (s : Style) (digits : List Char) (x : Int) : List Char :=
  let zeros (n : Int) := List.replicate n.toNat '0'
  if x < 0 then '0' :: '.' :: (zeros (-x - 1) ++ digits)
  else if digits.length ≤ x + 1 then
    digits ++ zeros (x + 1 - digits.length) ++ (if s.pointed then ['.', '0'] else [])
  else digits.take (x + 1).toNat ++ '.' :: digits.drop (x + 1).toNat

def exponential (s : Style) (digits : List Char) (x : Int) : List Char :=
  let fraction := match digits.drop 1 with
    | [] => []
    | rest => '.' :: rest
  let sign := if x < 0 then ['-'] else if s.signed then ['+'] else []
  digits.take 1 ++ fraction ++ 'e' :: sign ++ Nat.toDigits 10 x.natAbs

def magnitude (s : Style) (f : Format) (m : Nat) (e : Int) : List Char :=
  if m = 0 then s.place ['0'] 0
  else
    let d := Decimal.shortest f s.tie m e
    let digits := Nat.toDigits 10 d.digits
    let x : Int := d.exponent + digits.length - 1
    if s.positional x then s.place digits x else s.exponential digits x

def write (s : Style) {f : Format} : Binary f → String
  | .nan => "NaN"
  | .infinite negative => if negative then "-inf" else "inf"
  | .finite negative m e _ =>
    .ofList ((if negative then ['-'] else []) ++ s.magnitude f m e)

end Style

end Facet.Number
