import Mathlib.Algebra.Order.Field.Power
import Mathlib.Algebra.Order.Floor.Ring
import Mathlib.Data.Int.Log
import Mathlib.Data.Rat.Floor
import Mathlib.Tactic.Linarith
import Mathlib.Tactic.NormNum
import Mathlib.Tactic.Positivity
import Mathlib.Tactic.Ring

/-! Rounding a rational number to 53 significant bits, or fewer below the least normal number. The
relative error is at most 2^-53, and what fits is left as it is. -/
namespace CallOrder.Binary64

/-- The nearest integer, and the even one of two that are equally near. -/
def nearestInt (x : ℚ) : ℤ :=
  if Int.fract x < 1/2 then ⌊x⌋ else if 1/2 < Int.fract x then ⌊x⌋ + 1 else ⌊x⌋ + ⌊x⌋ % 2

/-- The exponent of the last place that is kept of a number. -/
def lastPlace (x : ℚ) : ℤ := max (Int.log 2 |x| - 52) (-1074)

/-- The nearest number with so many places, and the even one of two. -/
def nearest (x : ℚ) : ℚ := nearestInt (x / 2^lastPlace x) * 2^lastPlace x

theorem abs_nearestInt_sub_le (x : ℚ) : |(nearestInt x : ℚ) - x| ≤ 1/2 := by
  have hfract := Int.fract_add_floor x
  have hlo := Int.fract_nonneg x
  have hhi := Int.fract_lt_one x
  unfold nearestInt
  rw [abs_le]
  split_ifs with h h'
  · constructor <;> linarith
  · push_cast
    constructor <;> linarith
  · have hhalf : Int.fract x = 1/2 := le_antisymm (not_lt.mp h') (not_lt.mp h)
    rcases Int.emod_two_eq_zero_or_one ⌊x⌋ with heven | hodd
    · rw [heven]
      push_cast
      constructor <;> linarith
    · rw [hodd]
      push_cast
      constructor <;> linarith

@[simp]
theorem nearestInt_intCast (n : ℤ) : nearestInt n = n := by
  simp [nearestInt]

theorem nearestInt_neg (x : ℚ) : nearestInt (-x) = -nearestInt x := by
  by_cases hx : Int.fract x = 0
  · obtain ⟨n, rfl⟩ : ∃ n : ℤ, (n : ℚ) = x := ⟨⌊x⌋, by have := Int.fract_add_floor x; linarith⟩
    rw [← Int.cast_neg, nearestInt_intCast, nearestInt_intCast]
  have hfract := Int.fract_neg hx
  have hfloor : ⌊-x⌋ = -⌊x⌋ - 1 := by
    have h₁ := Int.fract_add_floor x
    have h₂ := Int.fract_add_floor (-x)
    have h : ((⌊-x⌋ : ℤ) : ℚ) = ((-⌊x⌋ - 1 : ℤ) : ℚ) := by push_cast; linarith
    exact_mod_cast h
  unfold nearestInt
  rw [hfract, hfloor]
  split_ifs with h₁ h₂ h₃ h₄ h₅ h₆
  any_goals linarith
  all_goals omega

theorem neg_le_lastPlace (x : ℚ) : -1074 ≤ lastPlace x := le_max_right _ _

theorem log_sub_le_lastPlace (x : ℚ) : Int.log 2 |x| - 52 ≤ lastPlace x := le_max_left _ _

@[simp]
theorem lastPlace_neg (x : ℚ) : lastPlace (-x) = lastPlace x := by
  rw [lastPlace, abs_neg, lastPlace]

theorem nearest_neg (x : ℚ) : nearest (-x) = -nearest x := by
  rw [nearest, lastPlace_neg, neg_div, nearestInt_neg, nearest]
  push_cast
  ring

@[simp]
theorem nearest_zero : nearest 0 = 0 := by
  have h : nearestInt 0 = 0 := nearestInt_intCast 0
  simp [nearest, h]

theorem abs_nearest_sub_le_half (x : ℚ) : |nearest x - x| ≤ 2^lastPlace x / 2 := by
  have hp : (0 : ℚ) < 2^lastPlace x := zpow_pos (by norm_num) _
  have hx : nearest x - x = (nearestInt (x / 2^lastPlace x) - x / 2^lastPlace x) * 2^lastPlace x := by
    rw [sub_mul, div_mul_cancel₀ _ hp.ne', nearest]
  rw [hx, abs_mul, abs_of_pos hp]
  calc
    _ ≤ 1/2 * (2 : ℚ)^lastPlace x := mul_le_mul_of_nonneg_right (abs_nearestInt_sub_le _) hp.le
    _ = _ := by ring

theorem zpow_log_le_abs {x : ℚ} (hx : x ≠ 0) : (2 : ℚ)^Int.log 2 |x| ≤ |x| := by
  exact_mod_cast Int.zpow_log_le_self (b := 2) (by norm_num) (abs_pos.mpr hx)

theorem abs_lt_zpow_log (x : ℚ) : |x| < (2 : ℚ)^(Int.log 2 |x| + 1) := by
  exact_mod_cast Int.lt_zpow_succ_log_self (b := 2) (by norm_num) |x|

/-- The relative error of rounding a number that is not too small. -/
theorem abs_nearest_sub_le_mul {x : ℚ} (hx : 2^(-1022 : ℤ) ≤ |x|) :
    |nearest x - x| ≤ |x| * 2^(-53 : ℤ) := by
  have hpos : 0 < |x| := (zpow_pos (by norm_num) _).trans_le hx
  have hlog : -1022 ≤ Int.log 2 |x| := by
    apply (Int.zpow_le_iff_le_log (by norm_num) hpos).mp
    exact_mod_cast hx
  have hlast : lastPlace x = Int.log 2 |x| - 52 := max_eq_left (by omega)
  calc
    |nearest x - x| ≤ 2^lastPlace x / 2 := abs_nearest_sub_le_half x
    _ = 2^Int.log 2 |x| * 2^(-53 : ℤ) := by
      rw [hlast, zpow_sub₀ (by norm_num)]
      norm_num
      ring
    _ ≤ |x| * 2^(-53 : ℤ) :=
      mul_le_mul_of_nonneg_right (zpow_log_le_abs (abs_pos.mp hpos)) (by positivity)

/-- The absolute error of rounding a number of known size. -/
theorem abs_nearest_sub_le {x : ℚ} {n : ℤ} (hx : |x| ≤ 2^n) (hn : -1022 ≤ n) :
    |nearest x - x| ≤ 2^(n - 53) := by
  by_cases h0 : x = 0
  · subst x
    simp only [nearest_zero, sub_zero, abs_zero]
    positivity
  have hlog : Int.log 2 |x| ≤ n := by
    apply (zpow_le_zpow_iff_right₀ (by norm_num : (1 : ℚ) < 2)).mp
    exact (zpow_log_le_abs h0).trans hx
  have hlast : lastPlace x ≤ n - 52 := max_le (by omega) (by omega)
  calc
    |nearest x - x| ≤ 2^lastPlace x / 2 := abs_nearest_sub_le_half x
    _ ≤ 2^(n - 52) / 2 := by
      have := zpow_le_zpow_right₀ (by norm_num : (1 : ℚ) ≤ 2) hlast
      linarith
    _ = 2^(n - 53) := by
      rw [show n - 52 = n - 53 + 1 by ring, zpow_add₀ (by norm_num)]
      norm_num

private theorem grid_div (k : ℤ) {e l : ℤ} (h : l ≤ e) :
    (k : ℚ) * 2^e / 2^l = ((k * 2^(e - l).toNat : ℤ) : ℚ) := by
  have hz : (2 : ℚ)^(e - l).toNat = 2^e / 2^l := by
    rw [← zpow_natCast, Int.toNat_of_nonneg (by omega), zpow_sub₀ (by norm_num)]
  push_cast
  rw [hz]
  ring

private theorem nearest_eq_of_lastPlace_le {k e : ℤ} (h : lastPlace (k * 2^e) ≤ e) :
    nearest (k * 2^e) = k * 2^e := by
  rw [nearest, grid_div k h, nearestInt_intCast, ← grid_div k h, div_mul_cancel₀]
  positivity

/-- Numbers with at most 53 bits are kept. -/
theorem nearest_eq_self {k e : ℤ} (hk : |k| < 2^53) (he : -1074 ≤ e) :
    nearest (k * 2^e) = k * 2^e := by
  by_cases h0 : k = 0
  · simp [h0]
  have hne : (k : ℚ) * 2^e ≠ 0 := mul_ne_zero (by exact_mod_cast h0) (by positivity)
  apply nearest_eq_of_lastPlace_le
  have hlt : |(k : ℚ) * 2^e| < 2^(e + 53) := by
    rw [abs_mul, abs_of_pos (show (0 : ℚ) < 2^e by positivity), zpow_add₀ (by norm_num), mul_comm]
    have hk' : |(k : ℚ)| < 2^(53 : ℤ) := by exact_mod_cast hk
    exact mul_lt_mul_of_pos_left hk' (by positivity)
  have hlog : Int.log 2 |(k : ℚ) * 2^e| < e + 53 := by
    apply (zpow_lt_zpow_iff_right₀ (by norm_num : (1 : ℚ) < 2)).mp
    exact (zpow_log_le_abs hne).trans_lt hlt
  exact max_le (by omega) he

theorem nearest_natCast {n : ℕ} (hn : n < 2^53) : nearest n = n := by
  have h := nearest_eq_self (k := n) (e := 0) (by rw [Nat.abs_cast]; exact_mod_cast hn) (by norm_num)
  simpa using h

private theorem floor_le_nearestInt (x : ℚ) : ⌊x⌋ ≤ nearestInt x := by
  unfold nearestInt
  split_ifs <;> omega

private theorem nearestInt_le_floor_add_one (x : ℚ) : nearestInt x ≤ ⌊x⌋ + 1 := by
  unfold nearestInt
  split_ifs <;> omega

theorem nearestInt_mono {x y : ℚ} (h : x ≤ y) : nearestInt x ≤ nearestInt y := by
  rcases (Int.floor_mono h).lt_or_eq with hlt | heq
  · calc
      nearestInt x ≤ ⌊x⌋ + 1 := nearestInt_le_floor_add_one x
      _ ≤ ⌊y⌋ := hlt
      _ ≤ nearestInt y := floor_le_nearestInt y
  · have hfract : Int.fract x ≤ Int.fract y := by
      rw [Int.fract, Int.fract, heq]
      linarith
    unfold nearestInt
    rw [heq]
    split_ifs
    any_goals omega
    all_goals linarith

private theorem nearest_le_grid {x : ℚ} {k e : ℤ} (h : x ≤ k * 2^e) (hl : lastPlace x ≤ e) :
    nearest x ≤ k * 2^e := by
  have hp : (0 : ℚ) < 2^lastPlace x := by positivity
  have hdiv : x / 2^lastPlace x ≤ (k : ℚ) * 2^e / 2^lastPlace x := div_le_div_of_nonneg_right h hp.le
  have hint := nearestInt_mono hdiv
  rw [grid_div k hl, nearestInt_intCast] at hint
  calc
    nearest x ≤ ((k * 2^(e - lastPlace x).toNat : ℤ) : ℚ) * 2^lastPlace x :=
      mul_le_mul_of_nonneg_right (by exact_mod_cast hint) hp.le
    _ = k * 2^e := by rw [← grid_div k hl, div_mul_cancel₀ _ hp.ne']

private theorem grid_le_nearest {x : ℚ} {k e : ℤ} (h : k * 2^e ≤ x) (hl : lastPlace x ≤ e) :
    k * 2^e ≤ nearest x := by
  have hneg := nearest_le_grid (x := -x) (k := -k) (e := e) (by push_cast; linarith) (by rwa [lastPlace_neg])
  rw [nearest_neg] at hneg
  push_cast at hneg
  linarith

private theorem nearest_nonneg {x : ℚ} (hx : 0 ≤ x) : 0 ≤ nearest x := by
  have h := nearestInt_mono (div_nonneg hx (show (0 : ℚ) ≤ 2^lastPlace x by positivity))
  rw [show nearestInt 0 = 0 from nearestInt_intCast 0] at h
  exact mul_nonneg (by exact_mod_cast h) (by positivity)

private theorem nearest_mono_of_pos {x y : ℚ} (hx : 0 < x) (h : x ≤ y) : nearest x ≤ nearest y := by
  have hy : 0 < y := hx.trans_le h
  have hlog : Int.log 2 |x| ≤ Int.log 2 |y| :=
    Int.log_mono_right (abs_pos.mpr hx.ne') (by rwa [abs_of_pos hx, abs_of_pos hy])
  have hlast : lastPlace x ≤ lastPlace y := max_le_max_right _ (by omega)
  rcases hlast.lt_or_eq with hlt | heq
  · have hlo : -1074 ≤ lastPlace x := le_max_right _ _
    have hxlog : Int.log 2 |x| - 52 ≤ lastPlace x := le_max_left _ _
    have hylog : lastPlace y = Int.log 2 |y| - 52 := max_eq_left (by
      by_contra hc
      have : lastPlace y = -1074 := max_eq_right (by omega)
      omega)
    have hx' : x ≤ ((1 : ℤ) : ℚ) * 2^Int.log 2 |y| := by
      have hpow : (2 : ℚ)^(Int.log 2 |x| + 1) ≤ 2^Int.log 2 |y| :=
        zpow_le_zpow_right₀ (by norm_num) (by omega)
      have := abs_lt_zpow_log x
      rw [abs_of_pos hx] at this hpow
      rw [Int.cast_one, one_mul]
      linarith
    have hy' : ((1 : ℤ) : ℚ) * 2^Int.log 2 |y| ≤ y := by
      have := zpow_log_le_abs hy.ne'
      rwa [Int.cast_one, one_mul, ← abs_of_pos hy, abs_abs]
    exact (nearest_le_grid hx' (by omega)).trans (grid_le_nearest hy' (by omega))
  · have hp : (0 : ℚ) < 2^lastPlace y := by positivity
    have hint := nearestInt_mono (div_le_div_of_nonneg_right h hp.le)
    rw [nearest, nearest, heq]
    exact mul_le_mul_of_nonneg_right (by exact_mod_cast hint) hp.le

/-- Rounding keeps the order. -/
theorem nearest_mono {x y : ℚ} (h : x ≤ y) : nearest x ≤ nearest y := by
  rcases lt_trichotomy x 0 with hx | rfl | hx
  · rcases lt_or_ge y 0 with hy | hy
    · have := nearest_mono_of_pos (neg_pos.mpr hy) (neg_le_neg h)
      rw [nearest_neg, nearest_neg] at this
      linarith
    · have hlo := nearest_nonneg (neg_pos.mpr hx).le
      rw [nearest_neg] at hlo
      linarith [nearest_nonneg hy]
  · rw [nearest_zero]
    exact nearest_nonneg h
  · exact nearest_mono_of_pos hx h

/-- The relative error of a quotient, from those of its operands. -/
theorem abs_div_sub_div_le {i u i' u' ε : ℚ} (hi : 0 ≤ i) (hu : 0 < u) (hε : 0 ≤ ε) (hε' : ε ≤ 1/3)
    (h : |i' - i| ≤ i * ε) (h' : |u' - u| ≤ u * ε) : |i' / u' - i / u| ≤ 3 * ε * (i / u) := by
  have hlow : u * (2/3) ≤ u' := by
    have hle := (abs_le.1 h').1
    nlinarith
  have hpos : 0 < u' := by linarith
  have hsplit : i' / u' - i / u = ((i' - i) * u - i * (u' - u)) / (u' * u) := by
    rw [div_sub_div _ _ hpos.ne' hu.ne']
    ring
  rw [hsplit, abs_div, abs_of_pos (mul_pos hpos hu), div_le_iff₀ (mul_pos hpos hu)]
  calc
    |(i' - i) * u - i * (u' - u)| ≤ |(i' - i) * u| + |i * (u' - u)| := abs_sub _ _
    _ = |i' - i| * u + i * |u' - u| := by rw [abs_mul, abs_mul, abs_of_pos hu, abs_of_nonneg hi]
    _ ≤ i * ε * u + i * (u * ε) := by gcongr
    _ = 3 * ε * i * (u * (2/3)) := by ring
    _ ≤ 3 * ε * i * u' := by gcongr
    _ = 3 * ε * (i / u) * (u' * u) := by field_simp

theorem nearest_one : nearest 1 = 1 := by exact_mod_cast nearest_natCast (n := 1) (by norm_num)

theorem nearest_two : nearest 2 = 2 := by exact_mod_cast nearest_natCast (n := 2) (by norm_num)

theorem nearest_natCast_nonneg (n : ℕ) : 0 ≤ nearest n := nearest_nonneg (Nat.cast_nonneg n)

theorem abs_nearest_natCast_sub_le (n : ℕ) : |nearest n - n| ≤ n * 2^(-53 : ℤ) := by
  rcases Nat.eq_zero_or_pos n with rfl | hn
  · simp
  · have h1 : (1 : ℚ) ≤ n := by exact_mod_cast hn
    have h := abs_nearest_sub_le_mul (x := n) (by
      rw [Nat.abs_cast]
      exact (zpow_le_one_of_nonpos₀ (by norm_num) (by norm_num)).trans h1)
    rwa [Nat.abs_cast] at h

end CallOrder.Binary64
