import CallOrder.Proofs.Binary64.Bounds
import CallOrder.Proofs.Json.Restored

/-! How a number of double precision comes back that was written. It is written as its shortest decimal, but read in
steps that round: its digits, a power of ten, their quotient. So the last place may be off, though not in a number of
few digits. -/
namespace CallOrder.Json
open Binary64 Decimal

namespace Numeral

private theorem le_ofDigitChars (digits : List Char) (n : ℕ) : n ≤ Nat.ofDigitChars 10 digits n := by
  induction digits generalizing n with
  | nil => simp
  | cons c digits ih =>
    rw [Nat.ofDigitChars_cons]
    exact le_trans (by omega) (ih _)

/-- Digits that fit into 64 bits are all appended. -/
theorem appendDigits_eq {digits : List Char} {n : ℕ} (h : Nat.ofDigitChars 10 digits n < UInt64.size) :
    appendDigits n digits = (Nat.ofDigitChars 10 digits n, digits.length) := by
  induction digits generalizing n with
  | nil => simp [appendDigits]
  | cons c digits ih =>
    rw [Nat.ofDigitChars_cons] at h ⊢
    have hnext := (le_ofDigitChars digits _).trans_lt h
    rw [appendDigits, if_pos hnext, ih h]
    rfl

theorem realValue_ofSpelling {spelling : Spelling} (hfits : spelling.significand < UInt64.size) (negative : Bool) :
    (ofSpelling negative spelling).realValue =
      (scale spelling.significand spelling.scale).map fun size => if negative then -size else size := by
  have hsignificand : Nat.ofDigitChars 10 (spelling.fraction.getD []) (Nat.ofDigitChars 10 spelling.whole 0) =
      spelling.significand := by
    rw [Spelling.significand, valueOfDigits_eq, Nat.ofDigitChars_append]
  have hwhole := appendDigits_eq ((le_ofDigitChars (spelling.fraction.getD []) _).trans_lt (hsignificand ▸ hfits))
  have hfraction := appendDigits_eq (hsignificand ▸ hfits)
  simp only [realValue, ofSpelling, hwhole, hfraction, hsignificand, Nat.sub_self, Nat.cast_zero, add_zero]
  rw [Spelling.scale, Spelling.exponentValue]
  cases scale spelling.significand _ <;> rfl

theorem value_ofSpelling {spelling : Spelling} (hreal : spelling.IsReal) (negative : Bool) :
    (ofSpelling negative spelling).value = (ofSpelling negative spelling).realValue.map .real := by
  have hnone : (spelling.fraction.isNone && spelling.exponent.isNone) = false := by
    rcases hreal with h | h <;> simp [Option.isNone_eq_false_iff.2 h]
  simp [value, ofSpelling, hnone]

section Scale
variable {m n : ℕ} {k : ℤ}

theorem powerOfTen_eq (hn : n ≤ 308) : powerOfTen n = nearestFloat 1 n := by
  have hlead : ¬ (n : ℤ) + (Nat.toDigits 10 1).length < -330 ∧ ¬ 330 < (n : ℤ) + (Nat.toDigits 10 1).length := by
    have hone : (Nat.toDigits 10 1).length = 1 := by decide
    omega
  simp [powerOfTen, nearestFloat, hlead.1, hlead.2, (Int.natCast_nonneg n).not_gt]

-- The power is a variable in the statements, since a closed term of this type would be evaluated.
theorem powerOfTen_rounded {p : Float} (hp : p = powerOfTen n) (hn : n ≤ 308) : IsRounded p (10^n) := by
  have hle : (10 : ℚ)^n ≤ ((2^53 - 1 : ℤ) : ℚ) * 2^(971 : ℤ) := by
    calc
      (10 : ℚ)^n ≤ 10^(44 * 7) := pow_le_pow_right₀ (by norm_num) hn
      _ = (10^44)^7 := pow_mul _ _ _
      _ ≤ (9 * 2^143)^7 := pow_le_pow_left₀ (by norm_num) (by norm_num) _
      _ = 9^7 * 2^(30 : ℤ) * 2^(971 : ℤ) := by
        rw [mul_pow, ← pow_mul, mul_assoc, ← zpow_add₀ (by norm_num)]
        rfl
      _ ≤ ((2^53 - 1 : ℤ) : ℚ) * 2^(971 : ℤ) := mul_le_mul_of_nonneg_right (by norm_num) (by positivity)
  have hmax := nearest_eq_self (k := 2^53 - 1) (e := 971) (by norm_num) (by norm_num)
  have hlim : nearest (1 * 10^(n : ℤ)) < limit := by
    rw [one_mul, zpow_natCast]
    refine (nearest_mono hle).trans_lt (hmax.trans_lt ?_)
    rw [limit, show (1024 : ℤ) = 53 + 971 by norm_num, zpow_add₀ (by norm_num)]
    exact mul_lt_mul_of_pos_right (by norm_num) (by positivity)
  have h := nearestFloat_rounded (m := 1) (k := n) (by exact_mod_cast hlim)
  rw [hp, powerOfTen_eq hn]
  simpa using h

/-- What the division by a power of ten needs to know of it. -/
theorem one_le_powerOfTen {p : Float} (hp : p = powerOfTen n) (hn : n ≤ 308) : IsFinite p ∧ 1 ≤ toRational p := by
  have h := powerOfTen_rounded hp hn
  refine ⟨h.finite, ?_⟩
  rw [h.toRational_eq, ← nearest_one]
  exact nearest_mono (one_le_pow₀ (by norm_num))

private theorem divideSteps_zero (count : ℕ) : divideSteps count 0 = 0 := by
  cases count <;> rfl

theorem scale_zero (hk : k < 0) : scale 0 k = .ok 0 := by
  have hsteps : k.natAbs - 308 * ((k.natAbs - 1) / 308) ≤ 308 := by omega
  obtain ⟨hfinite, hone⟩ := one_le_powerOfTen rfl hsteps
  have hzero : (0 : ℕ).toUInt64.toFloat = 0 := rfl
  rw [scale]
  simp only [if_pos hk, hzero, divideSteps_zero, zero_div_of_pos hfinite (zero_lt_one.trans_le hone)]

theorem nearest_lt_of_lt (hm : m < UInt64.size) : nearest m ≤ 2^(64 : ℤ) := by
  have hle : (m : ℚ) ≤ 2^(64 : ℤ) := by exact_mod_cast hm.le
  have hself := nearest_eq_self (k := 1) (e := 64) (by norm_num) (by norm_num)
  rw [Int.cast_one, one_mul] at hself
  exact (nearest_mono hle).trans_eq hself

/-- A power of ten that can be written as a number is divided by at once. -/
theorem scale_rounded (hm : m < UInt64.size) (hk : k < 0) (hlo : -308 ≤ k) :
    ∃ size, scale m k = .ok size ∧ IsRounded size (nearest m / nearest (10^k.natAbs)) := by
  obtain ⟨hfinite, hone⟩ := one_le_powerOfTen (n := k.natAbs) rfl (by omega)
  have hx := natCast_rounded hm
  have hten := powerOfTen_rounded (n := k.natAbs) rfl (by omega)
  have hlim : |toRational m.toUInt64.toFloat / toRational (powerOfTen k.natAbs)| < 2^(1023 : ℤ) := by
    have hnonneg : 0 ≤ toRational m.toUInt64.toFloat := by
      rw [hx.toRational_eq]
      exact nearest_natCast_nonneg m
    rw [abs_of_nonneg (div_nonneg hnonneg (by linarith))]
    calc
      _ ≤ toRational m.toUInt64.toFloat := div_le_self hnonneg hone
      _ ≤ 2^(64 : ℤ) := by
        rw [hx.toRational_eq]
        exact nearest_lt_of_lt hm
      _ < 2^(1023 : ℤ) := zpow_lt_zpow_right₀ (by norm_num) (by norm_num)
  have hr := div_rounded hx.finite hfinite (by linarith) hlim
  rw [hx.toRational_eq, hten.toRational_eq] at hr
  refine ⟨_, ?_, hr⟩
  have hsteps : (k.natAbs - 1) / 308 = 0 := by omega
  rw [scale]
  simp only [if_pos hk, hsteps, divideSteps, Nat.mul_zero, Nat.sub_zero]

private theorem least_fits : nearest (2^(-900 : ℤ)) = 2^(-900 : ℤ) := by
  have hself := nearest_eq_self (k := 1) (e := -900) (by norm_num) (by norm_num)
  rwa [Int.cast_one, one_mul] at hself

private theorem least_lt_limit : (2 : ℚ)^(-900 : ℤ) < 2^(1023 : ℤ) := zpow_lt_zpow_right₀ (by norm_num) (by norm_num)

private theorem divideSteps_within {x : Float} (hx : IsWithin x (2^(-900 : ℤ))) (count : ℕ) :
    IsWithin (divideSteps count x) (2^(-900 : ℤ)) := by
  induction count generalizing x with
  | zero => exact hx
  | succ count ih =>
    obtain ⟨p, hp⟩ : ∃ p, p = powerOfTen 308 := ⟨_, rfl⟩
    obtain ⟨hfinite, hone⟩ := one_le_powerOfTen hp le_rfl
    rw [divideSteps, ← hp]
    split
    · exact hx
    · exact ih (hx.div least_fits least_lt_limit hfinite hone)

private theorem le_powerOfTen {p : Float} (hp : p = powerOfTen 308) : (2 : ℚ)^(988 : ℤ) ≤ toRational p := by
  have hpow : (2 : ℚ)^(988 : ℤ) ≤ 10^308 := by
    calc
      (2 : ℚ)^(988 : ℤ) = (2^13)^76 := by rw [← pow_mul]; rfl
      _ ≤ (10^4)^76 := pow_le_pow_left₀ (by norm_num) (by norm_num) _
      _ ≤ 10^308 := by rw [← pow_mul]; exact pow_le_pow_right₀ (by norm_num) (by norm_num)
  have hself := nearest_eq_self (k := 1) (e := 988) (by norm_num) (by norm_num)
  rw [Int.cast_one, one_mul] at hself
  rw [(powerOfTen_rounded hp le_rfl).toRational_eq, ← hself]
  exact nearest_mono hpow

-- The first of several steps leads far down, and no other leads up.
private theorem divideSteps_succ_within (hm : m < UInt64.size) (count : ℕ) :
    IsWithin (divideSteps (count + 1) m.toUInt64.toFloat) (2^(-900 : ℤ)) := by
  have hx := natCast_rounded hm
  obtain ⟨p, hp⟩ : ∃ p, p = powerOfTen 308 := ⟨_, rfl⟩
  have hlarge := le_powerOfTen hp
  have hpos : 0 < toRational p := lt_of_lt_of_le (by positivity) hlarge
  have h0 : 0 ≤ toRational m.toUInt64.toFloat / toRational p := by
    rw [hx.toRational_eq]
    exact div_nonneg (nearest_natCast_nonneg m) hpos.le
  have hle : toRational m.toUInt64.toFloat / toRational p ≤ 2^(-900 : ℤ) := by
    rw [div_le_iff₀ hpos, hx.toRational_eq]
    calc
      nearest m ≤ 2^(64 : ℤ) := nearest_lt_of_lt hm
      _ ≤ 2^(-900 : ℤ) * 2^(988 : ℤ) := by
        rw [← zpow_add₀ (by norm_num)]
        exact zpow_le_zpow_right₀ (by norm_num) (by norm_num)
      _ ≤ 2^(-900 : ℤ) * toRational p := mul_le_mul_of_nonneg_left hlarge (by positivity)
  have hr := div_rounded hx.finite (powerOfTen_rounded hp le_rfl).finite hpos.ne'
    (by rw [abs_of_nonneg h0]; exact hle.trans_lt least_lt_limit)
  rw [divideSteps, ← hp]
  split
  · rename_i hzero
    have hzero' : toRational m.toUInt64.toFloat = 0 := by
      rw [(beq_iff.1 hzero).2.2, isWhole_zero.toRational_eq, Int.cast_zero]
    exact ⟨hx.finite, hzero'.ge, by rw [hzero']; positivity⟩
  · exact divideSteps_within (hr.isWithin_of h0 hle least_fits) count

theorem scale_within (hm : m < UInt64.size) (hlo : k < -308) :
    ∃ size, scale m k = .ok size ∧ IsWithin size (2^(-900 : ℤ)) := by
  obtain ⟨count, hcount⟩ : ∃ count, (k.natAbs - 1) / 308 = count + 1 := Nat.exists_eq_succ_of_ne_zero (by omega)
  have hlast : k.natAbs - 308 * (count + 1) ≤ 308 := by omega
  obtain ⟨hfinite, hone⟩ := one_le_powerOfTen rfl hlast
  refine ⟨_, ?_, (divideSteps_succ_within hm count).div least_fits least_lt_limit hfinite hone⟩
  rw [scale]
  simp only [if_pos (show k < 0 by omega), hcount]

theorem ratio_near (hk : k < 0) :
    |nearest m / nearest (10^k.natAbs) - m * 10^k| ≤ 3 * 2^(-53 : ℤ) * (m * 10^k) := by
  have hten := abs_nearest_natCast_sub_le (10^k.natAbs)
  push_cast at hten
  rw [mul_zpow_eq_div m hk]
  exact abs_div_sub_div_le (Nat.cast_nonneg m) (by positivity) (by positivity) (by norm_num)
    (abs_nearest_natCast_sub_le m) hten

private theorem value_lt (hm : m < UInt64.size) (hlo : k < -308) : (m : ℚ) * 10^k ≤ 2^(-930 : ℤ) := by
  have hmQ : (m : ℚ) ≤ 2^(64 : ℤ) := by exact_mod_cast hm.le
  calc
    (m : ℚ) * 10^k ≤ 2^(64 : ℤ) * 10^((-4 : ℤ) * 77) := by
      gcongr
      · norm_num
      · omega
    _ ≤ 2^(64 : ℤ) * 2^((-13 : ℤ) * 77) := by
      rw [zpow_mul, zpow_mul]
      gcongr
      exact zpow_le_zpow_left₀ (by norm_num) (by norm_num) (by norm_num)
    _ ≤ 2^(-930 : ℤ) := by
      rw [← zpow_add₀ (by norm_num)]
      exact zpow_le_zpow_right₀ (by norm_num) (by norm_num)

private theorem nearest_near {r v : ℚ} (hv : 2^(-930 : ℤ) ≤ v) (h : |r - v| ≤ 3 * 2^(-53 : ℤ) * v) :
    |nearest r - nearest v| ≤ 2^(-50 : ℤ) * nearest v := by
  have hv0 : 0 < v := lt_of_lt_of_le (by positivity) hv
  have heps : (2 : ℚ)^(-53 : ℤ) = 1 / 9007199254740992 := by norm_num
  have hnormal : (2 : ℚ)^(-1022 : ℤ) ≤ 2^(-930 : ℤ) / 2 := by
    rw [div_eq_mul_inv, ← zpow_sub_one₀ (by norm_num)]
    exact zpow_le_zpow_right₀ (by norm_num) (by norm_num)
  rw [heps] at h
  obtain ⟨hlow, hhigh⟩ := abs_le.1 h
  have hr : v / 2 ≤ r := by linarith
  have hr0 : |r| = r := abs_of_nonneg (by linarith)
  have hroundr := abs_nearest_sub_le_mul (x := r) (by rw [hr0]; linarith)
  have hroundv := abs_nearest_sub_le_mul (x := v) (by rw [abs_of_pos hv0]; linarith)
  rw [hr0, heps] at hroundr
  rw [abs_of_pos hv0, heps] at hroundv
  have hfifty : (2 : ℚ)^(-50 : ℤ) = 1 / 1125899906842624 := by norm_num
  obtain ⟨hlowr, hhighr⟩ := abs_le.1 hroundr
  obtain ⟨hlowv, hhighv⟩ := abs_le.1 hroundv
  rw [hfifty]
  exact abs_le.2 ⟨by linarith, by linarith⟩

-- A decimal that is tiny is read as a number that is tiny, in however many steps.
private theorem scale_tiny (hm : m < UInt64.size) (hk : k < 0) (hsmall : (m : ℚ) * 10^k ≤ 2^(-930 : ℤ)) :
    ∃ size, scale m k = .ok size ∧ IsWithin size (2^(-900 : ℤ)) := by
  rcases lt_or_ge k (-308) with hlo | hlo
  · exact scale_within hm hlo
  · obtain ⟨size, hsize, hrounded⟩ := scale_rounded hm hk hlo
    refine ⟨size, hsize, hrounded.isWithin_of ?_ ?_ least_fits⟩
    · exact div_nonneg (nearest_natCast_nonneg m) (by exact_mod_cast nearest_natCast_nonneg (10^k.natAbs))
    · have hratio := (abs_le.1 (ratio_near (m := m) hk)).2
      have hpow : (2 : ℚ)^(-930 : ℤ) * 2 ≤ 2^(-900 : ℤ) := by
        rw [← zpow_add_one₀ (by norm_num)]
        exact zpow_le_zpow_right₀ (by norm_num) (by norm_num)
      have hthree : 3 * (2 : ℚ)^(-53 : ℤ) * (m * 10^k) ≤ m * 10^k :=
        mul_le_of_le_one_left (by positivity) (by norm_num)
      linarith [hratio.trans hthree]

/-- What a decimal is read as is near to the number that is nearest to the decimal. -/
theorem scale_near (hm : m < UInt64.size) (hk : k < 0) :
    ∃ size, scale m k = .ok size ∧ IsFinite size ∧
      |toRational size - nearest (m * 10^k)| ≤ 2^(-50 : ℤ) * nearest (m * 10^k) + 2^(-900 : ℤ) := by
  have hnearest0 : 0 ≤ nearest (m * 10^k) := by
    rw [← nearest_zero]
    exact nearest_mono (by positivity)
  have hleast : (0 : ℚ) < 2^(-900 : ℤ) := by positivity
  have hmul : 0 ≤ (2 : ℚ)^(-50 : ℤ) * nearest (m * 10^k) := by positivity
  rcases le_or_gt ((m : ℚ) * 10^k) (2^(-930 : ℤ)) with hsmall | hlarge
  · obtain ⟨size, hsize, hfinite, h0, hle⟩ := scale_tiny hm hk hsmall
    have hnearest : nearest (m * 10^k) ≤ 2^(-900 : ℤ) := by
      rw [← least_fits]
      exact nearest_mono (hsmall.trans (zpow_le_zpow_right₀ (by norm_num) (by norm_num)))
    exact ⟨size, hsize, hfinite, abs_le.2 ⟨by linarith, by linarith⟩⟩
  · have hlo : -308 ≤ k := by
      by_contra hlo
      exact absurd (value_lt hm (not_le.1 hlo)) (not_le.2 hlarge)
    obtain ⟨size, hsize, hrounded⟩ := scale_rounded hm hk hlo
    refine ⟨size, hsize, hrounded.finite, ?_⟩
    rw [hrounded.toRational_eq]
    linarith [nearest_near hlarge.le (ratio_near hk)]

private theorem nearest_pos {x : ℚ} (h : 2^(-1022 : ℤ) ≤ x) : 0 < nearest x := by
  have hself := nearest_eq_self (k := 1) (e := -1022) (by norm_num) (by norm_num)
  rw [Int.cast_one, one_mul] at hself
  exact lt_of_lt_of_le (by rw [hself]; positivity) (nearest_mono h)

/-- The powers of ten whose odd part fits into a significand. -/
private theorem nearest_pow_ten (hn : n ≤ 22) : nearest (10^n) = 10^n := by
  have hfive : (5 : ℤ)^n < 2^53 := lt_of_le_of_lt (pow_le_pow_right₀ (by norm_num) hn) (by norm_num)
  have hself := nearest_eq_self (k := 5^n) (e := n) (by rwa [abs_of_pos (by positivity)]) (by omega)
  have heq : (((5 : ℤ)^n : ℤ) : ℚ) * 2^(n : ℤ) = 10^n := by
    rw [zpow_natCast]
    push_cast
    rw [← mul_pow]
    norm_num
  rwa [heq] at hself

private theorem few_places_bounds (hpos : 0 < m) (hm : m < 2^53) (hk : k < 0) (hlo : -22 ≤ k) :
    (2 : ℚ)^(-1022 : ℤ) ≤ m * 10^k ∧ (m : ℚ) * 10^k < 2^(1023 : ℤ) := by
  have hone : (1 : ℚ) ≤ m := by exact_mod_cast hpos
  have hmQ : (m : ℚ) < 2^(53 : ℤ) := by exact_mod_cast hm
  constructor
  · calc
      (2 : ℚ)^(-1022 : ℤ) ≤ 2^(-88 : ℤ) := zpow_le_zpow_right₀ (by norm_num) (by norm_num)
      _ ≤ 10^(-22 : ℤ) := by norm_num
      _ ≤ 10^k := zpow_le_zpow_right₀ (by norm_num) hlo
      _ ≤ m * 10^k := le_mul_of_one_le_left (by positivity) hone
  · calc
      (m : ℚ) * 10^k ≤ m := mul_le_of_le_one_right (by positivity) (zpow_le_one_of_nonpos₀ (by norm_num) hk.le)
      _ < 2^(53 : ℤ) := hmQ
      _ ≤ 2^(1023 : ℤ) := zpow_le_zpow_right₀ (by norm_num) (by norm_num)

/-- A decimal of few digits and few places is read as the number nearest to it. -/
theorem scale_exact (hm : m < 2^53) (hk : k < 0) (hlo : -22 ≤ k) : scale m k = .ok (nearestFloat m k) := by
  rcases Nat.eq_zero_or_pos m with rfl | hpos
  · rw [scale_zero hk]
    simp [nearestFloat]
  obtain ⟨size, hsize, hrounded⟩ := scale_rounded (hm.trans (by norm_num)) hk (by omega)
  rw [nearest_natCast hm, nearest_pow_ten (show k.natAbs ≤ 22 by omega), ← mul_zpow_eq_div m hk] at hrounded
  obtain ⟨hlow, hhigh⟩ := few_places_bounds hpos hm hk hlo
  have hfloat := nearestFloat_rounded (nearest_lt_limit hhigh)
  have hsame : size = nearestFloat m k := by
    refine eq_of_toRational_eq hrounded.finite hfloat.finite ?_ ?_
    · rw [hrounded.toRational_eq, hfloat.toRational_eq]
    · rw [hrounded.toRational_eq]
      exact (nearest_pos hlow).ne'
  rw [hsize, hsame]

end Scale

end Numeral

section Spelled
variable {m : ℕ} {e : ℤ} {spelling : Spelling} {text : List Char}

private theorem shortest_bounds (hlt : m < 2^53) (hle : (m : ℚ) * 2^e ≤ 10^14) :
    (shortest .toEven m e).digits ≤ 10^17 ∧ (shortest .toEven m e).value < 2 * 10^14 ∧ (shortest .toEven m e).lead < 15 := by
  rcases Nat.eq_zero_or_pos m with rfl | hpos
  · rw [shortest_zero]
    have hlead : (⟨0, 0⟩ : Scaled).lead = 0 := by decide
    norm_num [Scaled.value, hlead]
  obtain ⟨hdenotes, hdigits, hfew⟩ := shortest_spec .toEven hpos hlt e
  have hnear := (abs_le.1 (near_of_denotes hpos hdenotes).1).2
  have hone : (1 : ℚ) ≤ m := by exact_mod_cast hpos
  have hhalf : (2 : ℚ)^e ≤ m * 2^e := le_mul_of_one_le_left (by positivity) hone
  have hvalue : (shortest .toEven m e).value < 2 * 10^14 := by linarith
  refine ⟨hfew, hvalue, ?_⟩
  have hlow := (digitsOf_bounds hdigits).1
  have hlead : (10 : ℚ)^(shortest .toEven m e).lead < 10^(15 : ℤ) := by
    calc
      (10 : ℚ)^(shortest .toEven m e).lead
        = 10^(((digitsOf (shortest .toEven m e).digits).length : ℤ) - 1) * 10^(shortest .toEven m e).exponent := by
          rw [← zpow_add₀ (by norm_num), Scaled.lead, add_comm]
      _ ≤ (shortest .toEven m e).value := mul_le_mul_of_nonneg_right hlow (by positivity)
      _ < 2 * 10^14 := hvalue
      _ ≤ 10^(15 : ℤ) := by norm_num
  exact (zpow_lt_zpow_iff_right₀ (by norm_num)).1 hlead

private theorem significand_lt (h : dataNotation.Spells (shortest .toEven m e) spelling text) (hlt : m < 2^53)
    (hle : (m : ℚ) * 2^e ≤ 10^14) : spelling.significand ≤ 10^17 ∧
      ((shortest .toEven m e).digits < 2^53 → spelling.significand < 2^53) := by
  obtain ⟨hdigits, hvalue, -⟩ := shortest_bounds hlt hle
  generalize shortest .toEven m e = d at *
  rcases h.significand with heq | ⟨-, hexponent, heq⟩
  · rw [heq]
    exact ⟨hdigits, id⟩
  · have hten : (spelling.significand : ℚ) = d.value * 10 := by
      rw [heq, Scaled.value, ← Int.toNat_of_nonneg hexponent, zpow_natCast, Int.toNat_natCast]
      push_cast
      ring
    have hlt' : spelling.significand < 2 * 10^15 := by
      have : (spelling.significand : ℚ) < 2 * 10^15 := by linarith
      exact_mod_cast this
    omega

-- An exponent is written only for a number far below one.
private theorem scale_neg (h : dataNotation.Spells (shortest .toEven m e) spelling text) (hlt : m < 2^53)
    (hle : (m : ℚ) * 2^e ≤ 10^14) : spelling.scale < 0 := by
  obtain ⟨-, -, hlead⟩ := shortest_bounds hlt hle
  rw [Spelling.scale]
  rcases h.exponent with hnone | ⟨hscientific, hexponent⟩
  · obtain ⟨digits, hdigits⟩ := Option.isSome_iff_exists.1 (h.isReal.resolve_right (by simp [hnone]))
    have hpos := List.length_pos_iff.2 (h.isText.fraction_digits digits hdigits).ne_nil
    rw [Spelling.exponentValue, hnone, hdigits, Option.getD_some]
    dsimp only
    omega
  · simp only [dataNotation, Bool.and_eq_false_iff, decide_eq_false_iff_not] at hscientific
    omega

private theorem le_scale (h : dataNotation.Spells (shortest .toEven m e) spelling text) (hpos : 0 < m) (hlt : m < 2^53)
    (hplaces : -22 ≤ (shortest .toEven m e).exponent) : -22 ≤ spelling.scale := by
  have hdigits := (shortest_spec .toEven hpos hlt e).2.1
  have hvalue := h.value_eq
  rw [Spelling.value, Scaled.value] at hvalue
  generalize shortest .toEven m e = d at *
  have hne : (d.digits : ℚ) ≠ 0 := by exact_mod_cast hdigits.ne'
  have hinjective := zpow_right_injective₀ (a := (10 : ℚ)) (by norm_num) (by norm_num)
  rcases h.significand with heq | ⟨-, hexponent, heq⟩
  · rw [heq] at hvalue
    rwa [hinjective (mul_left_cancel₀ hne hvalue)]
  · rw [heq] at hvalue
    push_cast at hvalue
    rw [mul_assoc, ← zpow_natCast, ← zpow_add₀ (by norm_num)] at hvalue
    have := hinjective (mul_left_cancel₀ hne hvalue)
    omega

end Spelled

/-- Whether the decimal that is written for a number has few digits and few places. -/
def IsShort (x : Float) : Prop := ∀ negative m e, Parts.ofFloat x = .finite negative m e →
  (shortest .toEven m e).digits < 2^53 ∧ -22 ≤ (shortest .toEven m e).exponent

/-- How near a number is to the one that was written. A short one is not changed. -/
structure IsReread (x y : Float) : Prop where
  finite : IsFinite y
  near : |toRational y - toRational x| ≤ 2^(-50 : ℤ) * |toRational x| + 2^(-900 : ℤ)
  exact : IsShort x → y = x

/-- What is read where a number was written. -/
def reread (x : Float) : Float :=
  match Format.real.read 0 (Value.realReading x) with
  | .ok y => y
  | .error _ => x

section Sign
variable {x size : Float} {negative : Bool} {m : ℕ} {e : ℤ}

private theorem abs_toRational (hx : IsFinite x) (hparts : Parts.ofFloat x = .finite negative m e) :
    |toRational x| = m * 2^e := by
  have h0 : (0 : ℚ) ≤ m * 2^e := by positivity
  rw [toRational_of_parts hx hparts, abs_mul, abs_of_nonneg h0]
  cases negative <;> simp

-- What is near to a number without its sign is near to it with the sign.
private theorem near_with_sign (hx : IsFinite x) (hparts : Parts.ofFloat x = .finite negative m e) {error : ℚ}
    (hnear : |toRational size - m * 2^e| ≤ error) :
    |toRational (if negative then -size else size) - toRational x| ≤ error := by
  rw [toRational_of_parts hx hparts]
  cases negative with
  | true =>
    rw [if_pos rfl, if_pos rfl, toRational_neg, ← abs_neg]
    convert hnear using 2
    ring
  | false =>
    rw [if_neg Bool.false_ne_true, if_neg Bool.false_ne_true, one_mul]
    exact hnear

end Sign

private theorem scale_short {m : ℕ} {e : ℤ} {spelling : Spelling} {text : List Char}
    (h : dataNotation.Spells (shortest .toEven m e) spelling text) (hlt : m < 2^53) (hle : (m : ℚ) * 2^e ≤ 10^14)
    (hdigits : (shortest .toEven m e).digits < 2^53) (hplaces : -22 ≤ (shortest .toEven m e).exponent) :
    Numeral.scale spelling.significand spelling.scale = .ok (nearestFloat spelling.significand spelling.scale) := by
  have hscale := scale_neg h hlt hle
  rcases Nat.eq_zero_or_pos m with rfl | hpos
  · have hzero : spelling.significand = 0 := by
      have hvalue := h.value_eq
      rw [shortest_zero, Spelling.value, Scaled.value, Nat.cast_zero, zero_mul, mul_eq_zero, Nat.cast_eq_zero] at hvalue
      exact hvalue.resolve_right (by positivity)
    rw [hzero, Numeral.scale_zero hscale]
    simp [nearestFloat]
  · exact Numeral.scale_exact ((significand_lt h hlt hle).2 hdigits) hscale (le_scale h hpos hlt hplaces)

private theorem exists_isReread {x : Float} (hx : IsFinite x) (hle : |toRational x| ≤ 10^14) :
    ∃ y, (Numeral.read (Value.writeReal x)).1.value = .ok (.real y) ∧ IsReread x y := by
  obtain ⟨negative, m, e, hparts, hcanonical, spelling, text, hspells, hwritten⟩ :=
    spells_spellParts Value.dataNotation_isExplicit hx
  have hread := (Numeral.isSpelling_ofSpelling hspells.isText negative).reads [] .nil
  have hwrite : Value.writeReal x = (if negative then ['-'] else []) ++ text :=
    (if_pos ((isFinite_iff x).2 hx)).trans hwritten
  rw [List.append_nil, ← hwrite] at hread
  have hmagnitude := abs_toRational hx hparts
  rw [hmagnitude] at hle
  have hfits : spelling.significand < UInt64.size :=
    (significand_lt hspells hcanonical.lt hle).1.trans_lt (by norm_num)
  obtain ⟨size, hsize, hfinite, hnear⟩ := Numeral.scale_near hfits (scale_neg hspells hcanonical.lt hle)
  have hnearest : nearest (spelling.significand * 10^spelling.scale) = m * 2^e := by
    change nearest spelling.value = _
    rw [hspells.value_eq, nearest_shortest _ hcanonical]
  rw [hnearest] at hnear
  refine ⟨if negative then -size else size, ?_, ?_, ?_, ?_⟩
  · rw [hread, Numeral.value_ofSpelling hspells.isReal, Numeral.realValue_ofSpelling hfits, hsize]
    rfl
  · cases negative with
    | true => exact hfinite.neg
    | false => exact hfinite
  · rw [hmagnitude]
    exact near_with_sign hx hparts hnear
  · intro hshort
    obtain ⟨hdigits, hplaces⟩ := hshort negative m e hparts
    have hsame := hsize.symm.trans (scale_short hspells hcanonical.lt hle hdigits hplaces)
    rw [Except.ok.inj hsame]
    exact shortest_reads_back .toEven hparts hspells.value_eq

/-- A number that is not too large is read as one that is near to it. -/
theorem Format.real_reads {levels : ℕ} {x : Float} (hx : IsFinite x) (hle : |toRational x| ≤ 10^14) :
    Format.real.Reads levels (.real x) (reread x) ∧ IsReread x (reread x) := by
  obtain ⟨y, hvalue, hreread⟩ := exists_isReread hx hle
  have hread : ∀ depth, Format.real.read depth (Value.realReading x) = .ok y := by
    intro depth
    rw [Value.realReading, if_pos ((isFinite_iff x).2 hx)]
    simp only [Format.real, hvalue]
    rfl
  have hy : reread x = y := by rw [reread, hread]
  rw [hy]
  exact ⟨fun depth _ => hread depth, hreread⟩

end CallOrder.Json
