/-!
Binary floating-point numbers as sign, significand and exponent. A finite number has one form, so that
two finite numbers other than the zeros are equal exactly when their parts are.
-/

namespace Facet.Number

inductive Format
  | single | double
  deriving DecidableEq, Repr

namespace Format

def precision : Format → Nat
  | .single => 24
  | .double => 53

def least : Format → Int
  | .single => -149
  | .double => -1074

def greatest : Format → Int
  | .single => 104
  | .double => 971

/-- The significand fills the precision unless the exponent cannot fall further. -/
def Fits (f : Format) (m : Nat) (e : Int) : Prop :=
  m < Nat.pow 2 f.precision ∧ f.least ≤ e ∧ e ≤ f.greatest ∧
    (Nat.pow 2 (f.precision - 1) ≤ m ∨ e = f.least)

instance (f : Format) (m : Nat) (e : Int) : Decidable (f.Fits m e) :=
  inferInstanceAs (Decidable (_ ∧ _ ∧ _ ∧ _))

theorem fits_zero (f : Format) : f.Fits 0 f.least := by cases f <;> decide

end Format

inductive Binary (f : Format)
  | nan : Binary f
  | infinite : (negative : Bool) → Binary f
  | finite : (negative : Bool) → (m : Nat) → (e : Int) → f.Fits m e → Binary f
  deriving DecidableEq

namespace Binary

def zero (f : Format) (negative : Bool) : Binary f := .finite negative 0 f.least f.fits_zero

instance {f : Format} : Inhabited (Binary f) := ⟨zero f false⟩

def isFinite {f : Format} : Binary f → Bool
  | .finite .. => true
  | _ => false

def eqv {f : Format} : Binary f → Binary f → Bool
  | .infinite s, .infinite t => s == t
  | .finite s m e _, .finite t n d _ => m == n && e == d && (s == t || m == 0)
  | _, _ => false

def roundQuotient (n d : Nat) : Nat :=
  let q := n / d
  let r := n % d
  if d < 2 * r ∨ (d = 2 * r ∧ q % 2 = 1) then q + 1 else q

def scale (n d : Nat) (e : Int) : Nat × Nat :=
  (n <<< (-e).toNat, d <<< e.toNat)

def floorLog (n d : Nat) : Int :=
  let e : Int := n.log2 - d.log2
  let (a, b) := scale n d e
  if a < b then e - 1 else e

def pack (f : Format) (negative : Bool) (m : Nat) (e : Int) : Binary f :=
  if h : f.Fits m e then .finite negative m e h
  else if h : f.Fits (m / 2) (e + 1) then .finite negative (m / 2) (e + 1) h
  else .infinite negative

def ofRatio (f : Format) (negative : Bool) (n d : Nat) : Binary f :=
  if n = 0 then zero f negative
  else
    let e := max f.least (floorLog n d - (f.precision - 1))
    let (a, b) := scale n d e
    pack f negative (roundQuotient a b) e

def ofScaled (f : Format) (negative : Bool) (m : Nat) (e : Int) : Binary f :=
  ofRatio f negative (m <<< e.toNat) (1 <<< (-e).toNat)

def ofInt (f : Format) (n : Int) : Binary f := ofRatio f (n < 0) n.natAbs 1

def convert : {f : Format} → (g : Format) → Binary f → Binary g
  | .single, .single, x => x
  | .double, .double, x => x
  | _, _, .nan => .nan
  | _, _, .infinite s => .infinite s
  | _, g, .finite s m e _ => ofScaled g s m e

@[simp] theorem convert_self {f : Format} (x : Binary f) : x.convert f = x := by
  cases f <;> rfl

/-- The decimal number `digits · 10^exponent`. The bounds on the exponent only keep the powers of ten
small: beyond them every format has an infinity or a zero. -/
def ofDecimal (f : Format) (negative : Bool) (digits : Nat) (exponent : Int) : Binary f :=
  let leading : Int := (Nat.toDigits 10 digits).length + exponent
  if digits = 0 ∨ leading < -400 then zero f negative
  else if 400 < leading then .infinite negative
  else ofRatio f negative (digits * Nat.pow 10 exponent.toNat) (Nat.pow 10 (-exponent).toNat)

def truncate {f : Format} (bound : Int) : Binary f → Int
  | .nan => 0
  | .infinite s => if s then -bound else bound
  | .finite s m e _ =>
    let n : Int := (m <<< e.toNat >>> (-e).toNat : Nat)
    if s then -n else n

end Binary

end Facet.Number
