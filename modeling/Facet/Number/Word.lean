namespace Facet.Number

inductive Width
  | u8 | u32 | i64 | u64 | i128
  deriving DecidableEq, Repr

namespace Width

def least : Width → Int
  | .u8 | .u32 | .u64 => 0
  | .i64 => -0x8000_0000_0000_0000
  | .i128 => -0x8000_0000_0000_0000_0000_0000_0000_0000

def greatest : Width → Int
  | .u8 => 0xFF
  | .u32 => 0xFFFF_FFFF
  | .i64 => 0x7FFF_FFFF_FFFF_FFFF
  | .u64 => 0xFFFF_FFFF_FFFF_FFFF
  | .i128 => 0x7FFF_FFFF_FFFF_FFFF_FFFF_FFFF_FFFF_FFFF

def name : Width → String
  | .u8 => "u8"
  | .u32 => "u32"
  | .i64 => "i64"
  | .u64 => "u64"
  | .i128 => "i128"

def Holds (w : Width) (n : Int) : Prop := w.least ≤ n ∧ n ≤ w.greatest

instance (w : Width) (n : Int) : Decidable (w.Holds n) := inferInstanceAs (Decidable (_ ∧ _))

theorem holds_zero (w : Width) : w.Holds 0 := by cases w <;> decide

def count (w : Width) : Int := w.greatest - w.least + 1

theorem count_pos (w : Width) : 0 < w.count := by cases w <;> decide

end Width

structure Word (w : Width) where
  val : Int
  holds : w.Holds val
  deriving DecidableEq

namespace Word

@[ext] theorem ext {w : Width} {a b : Word w} (h : a.val = b.val) : a = b := by
  cases a; cases b; cases h; rfl

instance {w : Width} : Inhabited (Word w) := ⟨⟨0, w.holds_zero⟩⟩

def ofInt? (w : Width) (n : Int) : Option (Word w) :=
  if h : w.Holds n then some ⟨n, h⟩ else none

@[simp] theorem ofInt?_val {w : Width} (a : Word w) : ofInt? w a.val = some a := by
  simp [ofInt?, a.holds]

def clamp (w : Width) (n : Int) : Word w :=
  if h : w.Holds n then ⟨n, h⟩
  else if n < 0 then ⟨w.least, by cases w <;> decide⟩
  else ⟨w.greatest, by cases w <;> decide⟩

def wrap (w : Width) (n : Int) : Word w :=
  ⟨w.least + (n - w.least) % w.count, by
    have h := w.count_pos
    have h₀ := Int.emod_nonneg (n - w.least) (Int.ne_of_gt h)
    have h₁ := Int.emod_lt_of_pos (n - w.least) h
    simp only [Width.count] at h₀ h₁ ⊢
    constructor <;> omega⟩

end Word

end Facet.Number
