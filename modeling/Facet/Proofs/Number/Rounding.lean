import Facet.Number.Binary
import Facet.Number.Word
import Mathlib.Algebra.Order.Field.Power
import Mathlib.Data.Rat.Cast.Order
import Mathlib.Tactic.FieldSimp
import Mathlib.Tactic.Linarith
import Mathlib.Tactic.NormNum
import Mathlib.Tactic.Positivity
import Mathlib.Tactic.Ring

namespace Facet.Number.Binary

theorem two_zpow_eq_div (e : Int) : (2 : ℚ) ^ e = 2 ^ e.toNat / 2 ^ (-e).toNat := by
  have he : e = (e.toNat : Int) - (-e).toNat := by omega
  calc (2 : ℚ) ^ e = 2 ^ ((e.toNat : Int) - (-e).toNat) := congrArg _ he
    _ = 2 ^ e.toNat / 2 ^ (-e).toNat := by
      rw [zpow_sub₀ two_ne_zero, zpow_natCast, zpow_natCast]

theorem scale_pos {n d : Nat} {e : Int} (hd : 0 < d) : 0 < (scale n d e).2 := by
  simp only [scale, Nat.shiftLeft_eq]
  positivity

theorem scale_div (n d : Nat) (e : Int) :
    ((scale n d e).1 : ℚ) / (scale n d e).2 = n / d / 2 ^ e := by
  simp only [scale, Nat.shiftLeft_eq, two_zpow_eq_div]
  push_cast
  field_simp

theorem scale_lt_iff {n d : Nat} {e : Int} (hd : 0 < d) :
    (scale n d e).1 < (scale n d e).2 ↔ (n : ℚ) / d < 2 ^ e := by
  have hb : (0 : ℚ) < (scale n d e).2 := by exact_mod_cast scale_pos hd
  have he : (0 : ℚ) < 2 ^ e := by positivity
  rw [← Nat.cast_lt (α := ℚ), ← div_lt_one hb, scale_div, div_lt_one he]

theorem two_zpow_log2_le {n : Nat} (hn : 0 < n) : (2 : ℚ) ^ (n.log2 : Int) ≤ n := by
  rw [zpow_natCast]
  exact_mod_cast Nat.log2_self_le hn.ne'

theorem lt_two_zpow_log2 (n : Nat) : (n : ℚ) < 2 ^ (n.log2 + 1 : Int) := by
  rw [← Nat.cast_succ, zpow_natCast]
  exact_mod_cast Nat.lt_log2_self

theorem floorLog_spec {n d : Nat} (hn : 0 < n) (hd : 0 < d) :
    (2 : ℚ) ^ floorLog n d ≤ n / d ∧ (n : ℚ) / d < 2 ^ (floorLog n d + 1) := by
  have hd' : (0 : ℚ) < d := by exact_mod_cast hd
  -- The difference of the logarithms is the exponent sought or one too large.
  have low : (2 : ℚ) ^ ((n.log2 : Int) - d.log2 - 1) ≤ n / d := by
    rw [le_div_iff₀ hd']
    calc (2 : ℚ) ^ ((n.log2 : Int) - d.log2 - 1) * d
        ≤ 2 ^ ((n.log2 : Int) - d.log2 - 1) * 2 ^ (d.log2 + 1 : Int) := by
          gcongr
          exact (lt_two_zpow_log2 d).le
      _ = 2 ^ (n.log2 : Int) := by
          rw [← zpow_add₀ two_ne_zero]
          congr 1
          omega
      _ ≤ n := two_zpow_log2_le hn
  have high : (n : ℚ) / d < 2 ^ ((n.log2 : Int) - d.log2 + 1) := by
    rw [div_lt_iff₀ hd']
    calc (n : ℚ) < 2 ^ (n.log2 + 1 : Int) := lt_two_zpow_log2 n
      _ = 2 ^ ((n.log2 : Int) - d.log2 + 1) * 2 ^ (d.log2 : Int) := by
          rw [← zpow_add₀ two_ne_zero]
          congr 1
          omega
      _ ≤ 2 ^ ((n.log2 : Int) - d.log2 + 1) * d := by
          gcongr
          exact two_zpow_log2_le hd
  simp only [floorLog]
  split
  next h => exact ⟨low, by simpa using (scale_lt_iff hd).1 h⟩
  next h => exact ⟨not_lt.1 (mt (scale_lt_iff hd).2 h), high⟩

theorem floorLog_eq {n d : Nat} {k : Int} (hn : 0 < n) (hd : 0 < d) (low : (2 : ℚ) ^ k ≤ n / d)
    (high : (n : ℚ) / d < 2 ^ (k + 1)) : floorLog n d = k := by
  have ⟨l, h⟩ := floorLog_spec hn hd
  have h₁ := (zpow_lt_zpow_iff_right₀ (one_lt_two (α := ℚ))).1 (l.trans_lt high)
  have h₂ := (zpow_lt_zpow_iff_right₀ (one_lt_two (α := ℚ))).1 (low.trans_lt h)
  omega

@[simp] theorem roundQuotient_mul_right (m : Nat) {d : Nat} (hd : 0 < d) :
    roundQuotient (m * d) d = m := by
  simp [roundQuotient, hd.ne']

theorem ofRatio_of_fits {f : Format} {n d m : Nat} {e : Int} (s : Bool) (hd : 0 < d)
    (h : f.Fits m e) (hv : (n : ℚ) / d = m * 2 ^ e) : ofRatio f s n d = .finite s m e h := by
  have hd' : (0 : ℚ) < d := by exact_mod_cast hd
  obtain ⟨hm, hleast, -, hfull⟩ := id h
  rcases Nat.eq_zero_or_pos n with rfl | hn
  · -- Zero has the least exponent only.
    obtain rfl : m = 0 := by simpa [zpow_ne_zero] using hv.symm
    obtain rfl : e = f.least := hfull.resolve_left (by simp)
    simp [ofRatio, zero]
  · have hm₀ : 0 < m := by
      rcases Nat.eq_zero_or_pos m with rfl | hm₀
      · have : (0 : ℚ) < n / d := by positivity
        simp [hv] at this
      · exact hm₀
    have hlog : floorLog n d = m.log2 + e := by
      apply floorLog_eq hn hd
      · rw [hv, zpow_add₀ two_ne_zero]
        gcongr
        exact two_zpow_log2_le hm₀
      · rw [hv, add_right_comm, zpow_add₀ two_ne_zero]
        gcongr
        exact lt_two_zpow_log2 m
    have hexp : max f.least (floorLog n d - (f.precision - 1)) = e := by
      have hlt : m.log2 < f.precision := (Nat.log2_lt hm₀.ne').2 hm
      rcases hfull with hfull | hfull
      · have := (Nat.le_log2 hm₀.ne').2 hfull
        omega
      · omega
    have hscale : (scale n d e).1 = m * (scale n d e).2 := by
      have hb : (0 : ℚ) < (scale n d e).2 := by exact_mod_cast scale_pos hd
      have he : (2 : ℚ) ^ e ≠ 0 := by positivity
      have := scale_div n d e
      rw [hv, mul_div_cancel_right₀ _ he, div_eq_iff hb.ne'] at this
      exact_mod_cast this
    simp only [ofRatio, hn.ne', if_false, hexp]
    rw [hscale, roundQuotient_mul_right m (scale_pos hd), pack, dif_pos h]

theorem ofScaled_of_fits {f : Format} {k m : Nat} {j e : Int} (s : Bool) (h : f.Fits m e)
    (hv : (k : ℚ) * 2 ^ j = m * 2 ^ e) : ofScaled f s k j = .finite s m e h := by
  apply ofRatio_of_fits s (by simp [Nat.shiftLeft_eq]) h
  rw [← hv, two_zpow_eq_div j]
  simp [Nat.shiftLeft_eq, mul_div_assoc]

theorem fits_double {m : Nat} {e : Int} (low : 2 ^ 52 ≤ m) (high : m < 2 ^ 53) (hleast : -1074 ≤ e)
    (hgreatest : e ≤ 971) : Format.double.Fits m e :=
  ⟨high, hleast, hgreatest, .inl low⟩

theorem fill_bounds {m : Nat} (hm : 0 < m) (hlog : m.log2 ≤ 52) :
    2 ^ 52 ≤ m * 2 ^ (52 - m.log2) ∧ m * 2 ^ (52 - m.log2) < 2 ^ 53 := by
  constructor
  · calc 2 ^ 52 = 2 ^ m.log2 * 2 ^ (52 - m.log2) := by
          rw [← pow_add, Nat.add_sub_cancel' hlog]
      _ ≤ m * 2 ^ (52 - m.log2) := by
          gcongr
          exact Nat.log2_self_le hm.ne'
  · calc m * 2 ^ (52 - m.log2) < 2 ^ (m.log2 + 1) * 2 ^ (52 - m.log2) := by
          gcongr
          exact Nat.lt_log2_self
      _ = 2 ^ 53 := by rw [← pow_add, show m.log2 + 1 + (52 - m.log2) = 53 by omega]

theorem exists_fits_double {m : Nat} {e : Int} (h : Format.single.Fits m e) :
    ∃ n d, Format.double.Fits n d ∧ (m : ℚ) * 2 ^ e = n * 2 ^ d := by
  obtain ⟨hm, hleast, hgreatest, -⟩ := h
  rcases Nat.eq_zero_or_pos m with rfl | hm₀
  · exact ⟨0, _, Format.fits_zero .double, by simp⟩
  · have hlog : m.log2 < 24 := (Nat.log2_lt hm₀.ne').2 hm
    obtain ⟨low, high⟩ := fill_bounds hm₀ (by omega)
    simp only [Format.least, Format.greatest] at hleast hgreatest
    refine ⟨_, e - (52 - m.log2 : Nat), fits_double low high (by omega) (by omega), ?_⟩
    push_cast
    rw [mul_assoc, ← zpow_natCast (2 : ℚ), ← zpow_add₀ two_ne_zero]
    congr 2
    omega

theorem convert_convert_double {f : Format} {x : Binary f} (hx : x.isFinite) :
    (x.convert .double).convert f = x := by
  cases f with
  | double => simp
  | single =>
    cases x with
    | nan => simp [isFinite] at hx
    | infinite s => simp [isFinite] at hx
    | finite s m e h =>
      obtain ⟨n, d, hfits, hv⟩ := exists_fits_double h
      have hwide : (finite s m e h : Binary .single).convert .double = .finite s n d hfits :=
        ofScaled_of_fits s hfits hv
      rw [hwide]
      exact ofScaled_of_fits s h hv.symm

theorem isFinite_of_convert {f g : Format} {x : Binary f} (h : (x.convert g).isFinite) : x.isFinite := by
  cases x with
  | finite => rfl
  | nan => cases f <;> cases g <;> cases h
  | infinite t => cases f <;> cases g <;> cases h

theorem isFinite_convert_double {f : Format} {x : Binary f} (h : x.isFinite) :
    (x.convert .double).isFinite := by
  have hback : ((x.convert .double).convert f).isFinite := by
    rwa [convert_convert_double h]
  exact isFinite_of_convert hback

def IsWhole {f : Format} (bound : Nat) : Binary f → Prop
  | .finite _ m e _ => ∃ k ≤ bound, m * 2 ^ e.toNat = k * 2 ^ (-e).toNat
  | _ => False

theorem IsWhole.of_eqv {f : Format} {bound : Nat} {x y : Binary f} (h : x.IsWhole bound)
    (hxy : x.eqv y) : y.IsWhole bound := by
  cases x with
  | nan => exact h.elim
  | infinite s => exact h.elim
  | finite s m e _ =>
    cases y with
    | nan => cases hxy
    | infinite t => cases hxy
    | finite t n d _ =>
      simp only [eqv, Bool.and_eq_true, beq_iff_eq] at hxy
      obtain ⟨⟨rfl, rfl⟩, -⟩ := hxy
      exact h

theorem roundQuotient_le {n d c : Nat} (hd : 0 < d) (h : n ≤ c * d) : roundQuotient n d ≤ c := by
  have hq : n / d ≤ c := Nat.div_le_of_le_mul (by rwa [Nat.mul_comm])
  have hr := Nat.div_add_mod n d
  simp only [roundQuotient]
  split
  next hup =>
    rcases hq.lt_or_eq with hlt | heq
    · exact hlt
    · rw [heq, Nat.mul_comm] at hr
      omega
  next => exact hq

theorem le_roundQuotient {n d c : Nat} (hd : 0 < d) (h : c * d ≤ n) : c ≤ roundQuotient n d := by
  have hq : c ≤ n / d := (Nat.le_div_iff_mul_le hd).2 h
  simp only [roundQuotient]
  split <;> omega

theorem floorLog_one {n : Nat} (hn : 0 < n) : floorLog n 1 = n.log2 := by
  apply floorLog_eq hn one_pos
  · simpa using two_zpow_log2_le hn
  · simpa using lt_two_zpow_log2 n

theorem isWhole_pack {q j bound : Nat} (s : Bool) (low : 2 ^ 52 ≤ q) (high : q ≤ 2 ^ 53)
    (hj : j ≤ 11) (hb : q * 2 ^ j ≤ bound) : (pack .double s q j).IsWhole bound := by
  rcases high.lt_or_eq with hlt | rfl
  · have hfits : Format.double.Fits q j := fits_double low hlt (by omega) (by omega)
    rw [pack, dif_pos hfits]
    exact ⟨q * 2 ^ j, hb, by simp⟩
  · have hover : ¬ Format.double.Fits (2 ^ 53) j := fun h => absurd h.1 (by decide)
    have hfits : Format.double.Fits (2 ^ 53 / 2) (j + 1) :=
      fits_double (by decide) (by decide) (by omega) (by omega)
    rw [pack, dif_neg hover, dif_pos hfits]
    refine ⟨2 ^ 53 * 2 ^ j, hb, ?_⟩
    rw [show ((j : Int) + 1).toNat = j + 1 by omega, show (-((j : Int) + 1)).toNat = 0 by omega]
    ring

theorem isWhole_ofRatio {n : Nat} (s : Bool) (hn : n ≤ 2 ^ 63) :
    (ofRatio .double s n 1).IsWhole (2 ^ 63) := by
  rcases Nat.eq_zero_or_pos n with rfl | hn₀
  · exact ⟨0, by simp, by simp⟩
  have hlow := Nat.log2_self_le hn₀.ne'
  have hhigh := Nat.lt_log2_self (n := n)
  have hlog : n.log2 < 64 := (Nat.log2_lt hn₀.ne').2 (hn.trans_lt (by decide))
  rcases Nat.lt_or_ge 52 n.log2 with hbig | hsmall
  · -- The last bits are rounded away.
    obtain ⟨j, hj⟩ := Nat.exists_eq_add_of_le hbig.le
    have hexp : max Format.double.least (floorLog n 1 - (Format.double.precision - 1)) = j := by
      rw [floorLog_one hn₀]
      simp only [Format.least, Format.precision]
      omega
    have hscale : scale n 1 j = (n, 2 ^ j) := by simp [scale, Nat.shiftLeft_eq]
    have hj₀ : 0 < 2 ^ j := by positivity
    have hquot : roundQuotient n (2 ^ j) ≤ 2 ^ (63 - j) := by
      apply roundQuotient_le hj₀
      rwa [← pow_add, show 63 - j + j = 63 by omega]
    simp only [ofRatio, hn₀.ne', if_false, hexp, hscale]
    apply isWhole_pack s
    · apply le_roundQuotient hj₀
      rwa [← pow_add, ← hj]
    · apply roundQuotient_le hj₀
      rw [← pow_add, show 53 + j = n.log2 + 1 by omega]
      exact hhigh.le
    · omega
    · calc roundQuotient n (2 ^ j) * 2 ^ j ≤ 2 ^ (63 - j) * 2 ^ j := by gcongr
        _ = 2 ^ 63 := by rw [← pow_add, show 63 - j + j = 63 by omega]
  · -- All bits fit, so nothing is rounded.
    obtain ⟨low, high⟩ := fill_bounds hn₀ hsmall
    have hfits : Format.double.Fits (n * 2 ^ (52 - n.log2)) (-(52 - n.log2 : Nat)) :=
      fits_double low high (by omega) (by omega)
    rw [ofRatio_of_fits s one_pos hfits]
    · exact ⟨n, hn, by simp⟩
    · push_cast
      rw [zpow_neg, zpow_natCast]
      field_simp

theorem isWhole_ofInt (n : Word .i64) : (ofInt .double n.val).IsWhole (2 ^ 63) := by
  apply isWhole_ofRatio
  have := n.holds
  simp only [Width.Holds, Width.least, Width.greatest] at this
  omega

theorem truncate_finite {f : Format} {s : Bool} {m k : Nat} {e bound : Int} {h : f.Fits m e}
    (hk : m * 2 ^ e.toNat = k * 2 ^ (-e).toNat) :
    truncate bound (.finite s m e h) = if s then -(k : Int) else k := by
  have : m <<< e.toNat >>> (-e).toNat = k := by
    rw [Nat.shiftLeft_eq, hk, Nat.shiftRight_eq_div_pow, Nat.mul_div_cancel _ (by positivity)]
  simp only [truncate, this]

theorem ofRatio_two_pow_63 (s : Bool) :
    ofRatio .double s (2 ^ 63 - 1) 1 = ofRatio .double s (2 ^ 63) 1 := by
  cases s <;> decide +kernel

theorem ofInt_clamp (s : Bool) {k : Nat} (hk : k ≤ 2 ^ 63) :
    ∃ t, ofInt .double (Word.clamp .i64 (if s then -(k : Int) else k)).val = ofRatio .double t k 1 ∧
      (t = s ∨ k = 0) := by
  by_cases hmax : s = false ∧ k = 2 ^ 63
  · obtain ⟨rfl, rfl⟩ := hmax
    have hclamp : (Word.clamp .i64 (if false then -((2 ^ 63 : Nat) : Int) else (2 ^ 63 : Nat))).val =
        2 ^ 63 - 1 := by decide
    refine ⟨false, ?_, .inl rfl⟩
    rw [hclamp]
    exact ofRatio_two_pow_63 false
  · have hholds : Width.i64.Holds (if s then -(k : Int) else k) := by
      simp only [Width.Holds, Width.least, Width.greatest]
      cases s with
      | false =>
        have hne : k ≠ 2 ^ 63 := fun h => hmax ⟨rfl, h⟩
        simp only [Bool.false_eq_true, if_false]
        omega
      | true =>
        simp only [if_true]
        omega
    have habs : (if s then -(k : Int) else k).natAbs = k := by cases s <;> simp
    rw [Word.clamp, dif_pos hholds, ofInt, habs]
    refine ⟨_, rfl, ?_⟩
    rcases Nat.eq_zero_or_pos k with hk₀ | hk₀
    · exact .inr hk₀
    · left
      cases s <;> simp [hk₀]

/-- A number is equal to its integer part in 64 bits exactly when it is an integer up to two to the
power 63. -/
theorem eqv_ofInt_truncate_iff (x : Binary .double) :
    (ofInt .double (Word.clamp .i64 (x.truncate (2 ^ 64))).val).eqv x ↔ x.IsWhole (2 ^ 63) := by
  refine ⟨(isWhole_ofInt _).of_eqv, fun h => ?_⟩
  cases x with
  | nan => exact h.elim
  | infinite s => exact h.elim
  | finite s m e hfits =>
    obtain ⟨k, hk, hv⟩ := h
    obtain ⟨t, hclamp, hsign⟩ := ofInt_clamp s hk
    have hround : ofRatio .double t k 1 = .finite t m e hfits := by
      apply ofRatio_of_fits t one_pos hfits
      rw [two_zpow_eq_div]
      have : (m : ℚ) * 2 ^ e.toNat = k * 2 ^ (-e).toNat := by exact_mod_cast hv
      field_simp
      simpa using this.symm
    rw [truncate_finite hv, hclamp, hround]
    rcases hsign with rfl | rfl
    · simp [eqv]
    · have : m = 0 := by simpa using hv
      simp [eqv, this]

end Facet.Number.Binary
