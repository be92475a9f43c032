import Facet.Number.Binary

/-!
The fewest decimal digits that read back as a given binary number. The reals that round to the number
form an interval; the coarsest decimal grid with a point in it gives the digits, and of two such points
the nearer.
-/

namespace Facet.Number

inductive Tie
  | up | even
  deriving DecidableEq, Repr

structure Decimal where
  digits : Nat
  exponent : Int
  deriving DecidableEq, Repr

/-- The reals that round to `value`, in units of a quarter of its last place: from `low` to `high`, the
ends included if `closed`. -/
structure Interval where
  low : Nat
  value : Nat
  high : Nat
  closed : Bool

namespace Interval

def of (f : Format) (m : Nat) (e : Int) : Interval where
  low := if m = Nat.pow 2 (f.precision - 1) ∧ e ≠ f.least then 4 * m - 1 else 4 * m - 2
  value := 4 * m
  high := 4 * m + 2
  closed := m % 2 == 0

def contains (i : Interval) (n : Nat) : Bool :=
  if i.closed then i.low ≤ n && n ≤ i.high else i.low < n && n < i.high

def map (i : Interval) (g : Nat → Nat) : Interval := ⟨g i.low, g i.value, g i.high, i.closed⟩

def gridPoint? (i : Interval) (tie : Tie) (step : Nat) : Option Nat :=
  let d := i.value / step
  match i.contains (d * step), i.contains ((d + 1) * step) with
  | false, false => none
  | true, false => some d
  | false, true => some (d + 1)
  | true, true =>
    let middle := (2 * d + 1) * step
    if 2 * i.value < middle then some d
    else if middle < 2 * i.value then some (d + 1)
    else if tie = .even ∧ d % 2 = 0 then some d
    else some (d + 1)

end Interval

def Decimal.search (i : Interval) (tie : Tie) (e : Int) : Nat → Int → Decimal
  | 0, k => ⟨0, k⟩
  | fuel + 1, k =>
    let units := i.map (· * (Nat.pow 2 e.toNat * Nat.pow 10 (-k).toNat))
    let step := Nat.pow 10 k.toNat * Nat.pow 2 (-e).toNat
    match units.gridPoint? tie step with
    | some d => ⟨d, k⟩
    | none => search i tie e fuel (k - 1)

def Decimal.ceiling (m : Nat) (e : Int) : Int := (m.log2 + e + 1) * 30103 / 100000 + 1

/-- The shortest decimal that reads back as `m` times two to the power `e`. Seventeen digits always
suffice, and the first grid tried is at most two above the leading digit. -/
def Decimal.shortest (f : Format) (tie : Tie) (m : Nat) (e : Int) : Decimal :=
  search (.of f m e) tie (e - 2) 24 (ceiling m e)

end Facet.Number
