import CallOrder.Proofs.Json.Reread

/-! On which side of two a decimal comes to lie that is read in steps. The steps round, but none of them leads across two,
or from above zero to zero. -/
namespace CallOrder.Json.Numeral
open Binary64 Decimal

section Nearest
variable {x : ℚ} {n : ℕ}

/-- Small powers of ten are numbers, and so is what is twice as large, or four times. -/
theorem nearest_two_pow_mul (j : ℕ) (hn : n ≤ 22) : nearest (2^j * 10^n) = 2^j * 10^n := by
  have hfive : (5 : ℤ)^n < 2^53 := lt_of_le_of_lt (pow_le_pow_right₀ (by norm_num) hn) (by norm_num)
  have hself := nearest_eq_self (k := 5^n) (e := (j + n : ℕ)) (by rwa [abs_of_pos (by positivity)]) (by omega)
  have heq : (((5 : ℤ)^n : ℤ) : ℚ) * 2^((j + n : ℕ) : ℤ) = 2^j * 10^n := by
    rw [zpow_natCast, pow_add, show (10 : ℚ) = 5 * 2 by norm_num, mul_pow]
    push_cast
    ring
  rwa [heq] at hself

theorem nearest_two_zpow {e : ℤ} (he : -1074 ≤ e) : nearest (2^e) = 2^e := by
  have hself := nearest_eq_self (k := 1) (e := e) (by norm_num) he
  rwa [Int.cast_one, one_mul] at hself

private theorem epsilon_eq : (2 : ℚ)^(-53 : ℤ) = 1 / 9007199254740992 := by norm_num

private theorem nearest_three : nearest 3 = 3 := by exact_mod_cast nearest_natCast (n := 3) (by norm_num)

/-- What lies above half of the least number is not rounded to zero. -/
theorem nearest_pos_of_lt (h : 2^(-1075 : ℤ) < x) : 0 < nearest x := by
  have hx : 0 < x := lt_trans (by positivity) h
  rcases lt_or_ge x (2^(-1022 : ℤ)) with hsmall | hlarge
  · have hplace : lastPlace x = -1074 := lastPlace_eq (.inr rfl) (hsmall.trans (zpow_lt_zpow_right₀ (by norm_num)
      (by norm_num))) hx le_rfl
    have hhalf : (2 : ℚ)^(-1074 : ℤ) / 2 = 2^(-1075 : ℤ) := by
      rw [show (-1074 : ℤ) = -1075 + 1 by norm_num, zpow_add_one₀ (by norm_num)]
      ring
    have hnear := abs_nearest_sub_le_half x
    rw [hplace, hhalf] at hnear
    linarith [(abs_le.1 hnear).1]
  · have hleast : (0 : ℚ) < 2^(-1022 : ℤ) := by positivity
    rw [← nearest_two_zpow (by norm_num)] at hleast
    exact hleast.trans_le (nearest_mono hlarge)

/-- Rounding a number that is not too small takes little of it away. -/
theorem le_nearest (hx : 2^(-1070 : ℤ) ≤ x) : 9/10 * x ≤ nearest x := by
  have hx0 : 0 < x := lt_of_lt_of_le (by positivity) hx
  rcases lt_or_ge x (2^(-1022 : ℤ)) with hsmall | hlarge
  · have hplace : lastPlace x = -1074 := lastPlace_eq (.inr rfl) (hsmall.trans (zpow_lt_zpow_right₀ (by norm_num)
      (by norm_num))) hx0 le_rfl
    have hpart : (2 : ℚ)^(-1074 : ℤ) = 2^(-1070 : ℤ) / 16 := by
      rw [show (-1074 : ℤ) = -1070 - 4 by norm_num, zpow_sub₀ (by norm_num)]
      norm_num
    have hnear := abs_nearest_sub_le_half x
    rw [hplace, hpart] at hnear
    linarith [(abs_le.1 hnear).1]
  · have hnear := abs_nearest_sub_le_mul (x := x) (by rwa [abs_of_pos hx0])
    rw [abs_of_pos hx0, epsilon_eq] at hnear
    linarith [(abs_le.1 hnear).1]

/-- A whole number is changed by less than a tenth. -/
theorem nearest_natCast_between (n : ℕ) : 9/10 * (n : ℚ) ≤ nearest n ∧ nearest n ≤ 11/10 * n := by
  have hnear := abs_nearest_natCast_sub_le n
  have hn : (0 : ℚ) ≤ n := Nat.cast_nonneg n
  rw [epsilon_eq] at hnear
  obtain ⟨hlow, hhigh⟩ := abs_le.1 hnear
  exact ⟨by linarith, by linarith⟩

theorem nearest_natCast_pos (hn : 0 < n) : 0 < nearest n := by
  have hn' : (0 : ℚ) < n := by exact_mod_cast hn
  linarith [(nearest_natCast_between n).1]

theorem nearest_ten_pow_between (n : ℕ) : 0 < nearest (10^n) ∧ nearest (10^n) ≤ 11/10 * 10^n := by
  have hpos := nearest_natCast_pos (n := 10^n) (by positivity)
  have hhigh := (nearest_natCast_between (10^n)).2
  push_cast at hpos hhigh
  exact ⟨hpos, hhigh⟩

end Nearest

theorem isInf_of_isFinite {x : Float} (hx : IsFinite x) : x.isInf = false := by
  change x.toModel.unpack.isInf = false
  unfold IsFinite at hx
  cases h : x.toModel.unpack <;> simp_all [IsProper, Float.Model.UnpackedFloat.isInf]

theorem beq_zero_of_pos {x : Float} (hx : 0 < toRational x) : (x == 0) = false := by
  rw [Bool.eq_false_iff]
  intro hzero
  have heq := (beq_iff.1 hzero).2.2
  rw [isWhole_zero.toRational_eq, Int.cast_zero] at heq
  exact hx.ne' heq

section Scale
variable {m : ℕ} {k : ℤ}

theorem toFloat_pos (hm : m < UInt64.size) (hpos : 0 < m) : 0 < toRational m.toUInt64.toFloat :=
  (nearest_natCast_pos hpos).trans_eq (natCast_rounded hm).toRational_eq.symm

/-- A power of ten within the exact ones is divided by without an error of its own. -/
theorem scale_rounded_exact (hm : m < UInt64.size) (hk : k < 0) (hlo : -22 ≤ k) :
    ∃ size, scale m k = .ok size ∧ IsRounded size (nearest m / 10^k.natAbs) := by
  obtain ⟨size, hsize, hrounded⟩ := scale_rounded hm hk (by omega)
  have hten := nearest_two_pow_mul 0 (n := k.natAbs) (by omega)
  rw [pow_zero, one_mul] at hten
  rw [hten] at hrounded
  exact ⟨size, hsize, hrounded⟩

private theorem value_small (hm : m < UInt64.size) (hlo : k < -22) : (m : ℚ) * 10^k ≤ 1 := by
  have hmQ : (m : ℚ) ≤ 2^(64 : ℤ) := by exact_mod_cast hm.le
  calc
    (m : ℚ) * 10^k ≤ 2^(64 : ℤ) * 10^(-23 : ℤ) := by
      gcongr
      · norm_num
      · omega
    _ ≤ 1 := by norm_num

/-- What is not above two is not read as more than two. -/
theorem scale_le_two (hm : m < UInt64.size) (hk : k < 0) (hle : (m : ℚ) * 10^k ≤ 2) {size : Float}
    (hsize : scale m k = .ok size) : toRational size ≤ 2 := by
  rcases lt_or_ge k (-22) with hlo | hlo
  · obtain ⟨size', hsize', -, hnear⟩ := scale_near hm hk
    rw [hsize', Except.ok.injEq] at hsize
    subst hsize
    have hone : nearest ((m : ℚ) * 10^k) ≤ 1 := (nearest_mono (value_small hm hlo)).trans_eq nearest_one
    have hfifty : (2 : ℚ)^(-50 : ℤ) * nearest (m * 10^k) ≤ 2^(-50 : ℤ) := mul_le_of_le_one_right (by positivity) hone
    have hleast : (2 : ℚ)^(-900 : ℤ) ≤ 2^(-2 : ℤ) := zpow_le_zpow_right₀ (by norm_num) (by norm_num)
    have hsmall : (2 : ℚ)^(-50 : ℤ) + 2^(-2 : ℤ) ≤ 1 := by norm_num
    linarith [(abs_le.1 hnear).2]
  · obtain ⟨size', hsize', hrounded⟩ := scale_rounded_exact hm hk hlo
    rw [hsize', Except.ok.injEq] at hsize
    subst hsize
    have hten : (0 : ℚ) < 10^k.natAbs := by positivity
    have hdigits : (m : ℚ) ≤ 2^1 * 10^k.natAbs := by
      rw [mul_zpow_eq_div m hk, div_le_iff₀ hten] at hle
      rwa [pow_one]
    have hnearest : nearest m ≤ 2 * 10^k.natAbs := by
      have hmono := nearest_mono hdigits
      rwa [nearest_two_pow_mul 1 (by omega), pow_one] at hmono
    rw [hrounded.toRational_eq, ← nearest_two]
    exact nearest_mono ((div_le_iff₀ hten).2 hnearest)

private theorem div_rounded_of_le {x p : Float} (hx : IsFinite x) (h0 : 0 ≤ toRational x) (hle : toRational x ≤ 2^(64 : ℤ))
    (hp : IsFinite p) (hone : 1 ≤ toRational p) : IsRounded (x / p) (toRational x / toRational p) := by
  refine div_rounded hx hp (by linarith) ?_
  rw [abs_of_nonneg (div_nonneg h0 (by linarith))]
  exact ((div_le_self h0 hone).trans hle).trans_lt (zpow_lt_zpow_right₀ (by norm_num) (by norm_num))

private theorem ratio_le_div {x y u v : ℚ} {c : ℚ} (hc : 0 < c) (hx0 : 0 ≤ x) (hx : c * x ≤ u) (hv0 : 0 < v)
    (hv : v ≤ 11/10 * y) : 10/11 * c * (x / y) ≤ u / v := by
  have hy : 0 < y := by linarith
  rw [le_div_iff₀ hv0]
  calc
    10/11 * c * (x / y) * v ≤ 10/11 * c * (x / y) * (11/10 * y) := by gcongr
    _ = c * x := by field_simp
    _ ≤ u := hx

private theorem natAbs_le (hm : m < UInt64.size) (hk : k < 0) (hlow : 2^(-1074 : ℤ) ≤ (m : ℚ) * 10^k) : k.natAbs ≤ 379 := by
  have hmQ : (m : ℚ) < 2^(64 : ℤ) := by exact_mod_cast hm
  have hten : (0 : ℚ) < 10^k.natAbs := by positivity
  rw [mul_zpow_eq_div m hk, le_div_iff₀ hten] at hlow
  have hlt : (2 : ℚ)^(3 * k.natAbs : ℤ) < 2^(1138 : ℤ) := by
    calc
      (2 : ℚ)^(3 * k.natAbs : ℤ) = (2^3)^k.natAbs := by rw [zpow_mul, zpow_natCast]; rfl
      _ ≤ 10^k.natAbs := pow_le_pow_left₀ (by norm_num) (by norm_num) _
      _ = 2^(1074 : ℤ) * (2^(-1074 : ℤ) * 10^k.natAbs) := by
        rw [← mul_assoc, ← zpow_add₀ (by norm_num)]
        norm_num
      _ ≤ 2^(1074 : ℤ) * m := mul_le_mul_of_nonneg_left hlow (by positivity)
      _ < 2^(1074 : ℤ) * 2^(64 : ℤ) := mul_lt_mul_of_pos_left hmQ (by positivity)
      _ = 2^(1138 : ℤ) := by
        rw [← zpow_add₀ (by norm_num)]
        norm_num
  have := (zpow_lt_zpow_iff_right₀ (by norm_num)).1 hlt
  omega

-- Beyond the greatest power of ten that is a number there is one step in between.
private theorem scale_twice (hm : m < UInt64.size) (hpos : 0 < m) (hlo : k < -308) (hhi : k.natAbs ≤ 379) :
    ∃ size, scale m k = .ok size ∧
      IsRounded size (nearest (nearest m / nearest (10^308)) / nearest (10^(k.natAbs - 308))) := by
  obtain ⟨p, hp⟩ : ∃ p, p = powerOfTen 308 := ⟨_, rfl⟩
  obtain ⟨p', hp'⟩ : ∃ p', p' = powerOfTen (k.natAbs - 308) := ⟨_, rfl⟩
  obtain ⟨hfinite, hone⟩ := one_le_powerOfTen hp le_rfl
  obtain ⟨hfinite', hone'⟩ := one_le_powerOfTen hp' (by omega)
  have hx := natCast_rounded hm
  have hx0 := toFloat_pos hm hpos
  have hfirst := div_rounded_of_le hx.finite hx0.le (hx.toRational_eq.trans_le (nearest_lt_of_lt hm)) hfinite hone
  have hbelow : toRational (m.toUInt64.toFloat / p) ≤ 2^(64 : ℤ) := by
    rw [hfirst.toRational_eq]
    have hle := (div_le_self hx0.le hone).trans (hx.toRational_eq.trans_le (nearest_lt_of_lt hm))
    exact (nearest_mono hle).trans_eq (nearest_two_zpow (by norm_num))
  have hfirst0 : 0 ≤ toRational (m.toUInt64.toFloat / p) := by
    rw [hfirst.toRational_eq, ← nearest_zero]
    exact nearest_mono (div_nonneg hx0.le (by linarith))
  have hlast := div_rounded_of_le hfirst.finite hfirst0 hbelow hfinite' hone'
  rw [hfirst.toRational_eq, hx.toRational_eq, (powerOfTen_rounded hp le_rfl).toRational_eq,
    (powerOfTen_rounded hp' (by omega)).toRational_eq] at hlast
  refine ⟨_, ?_, hlast⟩
  have hsteps : (k.natAbs - 1) / 308 = 1 := by omega
  have hne : (m.toUInt64.toFloat == 0) = false := beq_zero_of_pos hx0
  rw [scale]
  simp only [if_pos (show k < 0 by omega), hsteps, divideSteps, hne, Nat.mul_one, ← hp, ← hp', Bool.false_eq_true, if_false]

private theorem ten_pow_le : (10 : ℚ)^308 ≤ 2^(1034 : ℤ) := by
  calc
    (10 : ℚ)^308 = (10^28)^11 := by rw [← pow_mul]
    _ ≤ (2^94)^11 := pow_le_pow_left₀ (by norm_num) (by norm_num) _
    _ = 2^(1034 : ℤ) := by rw [← pow_mul]; rfl

private theorem ratio_le_nearest (m n : ℕ) : 9/11 * ((m : ℚ) / 10^n) ≤ nearest m / nearest (10^n) := by
  have h := ratio_le_div (by norm_num) (Nat.cast_nonneg m) (nearest_natCast_between m).1 (nearest_ten_pow_between n).1
    (nearest_ten_pow_between n).2
  norm_num at h
  exact h

-- Each of the two steps takes away less than a fifth, and less than a half is taken away from the least number.
private theorem ratio_le_twice (hpos : 0 < m) {n : ℕ} (hn : 308 ≤ n) :
    81/121 * ((m : ℚ) / 10^n) ≤ nearest (nearest m / nearest (10^308)) / nearest (10^(n - 308)) := by
  have hfirst := ratio_le_nearest m 308
  have hlarge : (2 : ℚ)^(-1070 : ℤ) ≤ nearest m / nearest (10^308) := by
    have hm1 : (1 : ℚ) ≤ m := by exact_mod_cast hpos
    refine le_trans ?_ hfirst
    rw [← mul_div_assoc, le_div_iff₀ (by positivity)]
    calc
      (2 : ℚ)^(-1070 : ℤ) * 10^308 ≤ 2^(-1070 : ℤ) * 2^(1034 : ℤ) :=
        mul_le_mul_of_nonneg_left ten_pow_le (by positivity)
      _ = 2^(-36 : ℤ) := by rw [← zpow_add₀ (by norm_num)]; rfl
      _ ≤ 9/11 * 1 := by norm_num
      _ ≤ 9/11 * m := mul_le_mul_of_nonneg_left hm1 (by norm_num)
  have hsecond := ratio_le_div (y := 10^(n - 308)) (c := 9/10) (by norm_num) (le_trans (by positivity) hlarge)
    (le_nearest hlarge) (nearest_ten_pow_between (n - 308)).1 (nearest_ten_pow_between (n - 308)).2
  have hsplit : (m : ℚ) / 10^n = m / 10^308 / 10^(n - 308) := by
    rw [div_div, ← pow_add, show 308 + (n - 308) = n by omega]
  calc
    81/121 * ((m : ℚ) / 10^n) = 10/11 * (9/10) * (9/11 * (m / 10^308) / 10^(n - 308)) := by
      rw [hsplit]
      generalize (m : ℚ) / 10^308 = first
      ring
    _ ≤ 10/11 * (9/10) * (nearest m / nearest (10^308) / 10^(n - 308)) :=
      mul_le_mul_of_nonneg_left (div_le_div_of_nonneg_right hfirst (by positivity)) (by norm_num)
    _ ≤ nearest (nearest m / nearest (10^308)) / nearest (10^(n - 308)) := hsecond

/-- What is not below the least number is not read as zero. -/
theorem scale_pos (hm : m < UInt64.size) (hpos : 0 < m) (hk : k < 0) (hlow : 2^(-1074 : ℤ) ≤ (m : ℚ) * 10^k) {size : Float}
    (hsize : scale m k = .ok size) : 0 < toRational size := by
  have hhalf : (2 : ℚ)^(-1074 : ℤ) = 2 * 2^(-1075 : ℤ) := by
    rw [show (-1074 : ℤ) = -1075 + 1 by norm_num, zpow_add_one₀ (by norm_num)]
    ring
  have hleast : (0 : ℚ) < 2^(-1075 : ℤ) := by positivity
  have hsteps := natAbs_le hm hk hlow
  rw [mul_zpow_eq_div m hk] at hlow
  rcases lt_or_ge k (-308) with hlo | hlo
  · obtain ⟨size', hsize', hrounded⟩ := scale_twice hm hpos hlo hsteps
    rw [hsize', Except.ok.injEq] at hsize
    subst hsize
    have hratio := ratio_le_twice hpos (n := k.natAbs) (by omega)
    rw [hrounded.toRational_eq]
    exact nearest_pos_of_lt (by linarith)
  · obtain ⟨size', hsize', hrounded⟩ := scale_rounded hm hk hlo
    rw [hsize', Except.ok.injEq] at hsize
    subst hsize
    have hratio := ratio_le_nearest m k.natAbs
    rw [hrounded.toRational_eq]
    exact nearest_pos_of_lt (by linarith)

/-- With a power of ten as a factor the result is rounded, or it is too large. -/
theorem scale_of_nonneg (hm : m < UInt64.size) (hpos : 0 < m) (hk : 0 ≤ k) :
    scale m k = .error .numberTooLarge ∨
      ∃ size, scale m k = .ok size ∧ IsRounded size (nearest m * nearest (10^k.natAbs)) := by
  have hx := natCast_rounded hm
  have hx0 := toFloat_pos hm hpos
  rw [scale]
  simp only [if_neg hk.not_gt]
  split
  · rename_i hle
    obtain ⟨p, hp⟩ : ∃ p, p = powerOfTen k.natAbs := ⟨_, rfl⟩
    obtain ⟨hfinite, hone⟩ := one_le_powerOfTen hp hle
    rw [← hp]
    rcases mul_rounded_or_infinite hx.finite hfinite hx0 (by linarith) with hrounded | hinfinite
    · have hisInf : (m.toUInt64.toFloat * p).isInf = false := isInf_of_isFinite hrounded.finite
      rw [hx.toRational_eq, (powerOfTen_rounded hp hle).toRational_eq] at hrounded
      rw [hisInf, if_neg Bool.false_ne_true]
      exact .inr ⟨_, rfl, hrounded⟩
    · have hisInf : (m.toUInt64.toFloat * p).isInf = true := by
        change (m.toUInt64.toFloat * p).toModel.unpack.isInf = true
        rw [hinfinite]
        rfl
      rw [hisInf, if_pos rfl]
      exact .inl rfl
  · have hne : (m.toUInt64.toFloat == 0) = false := beq_zero_of_pos hx0
    rw [hne, if_neg Bool.false_ne_true]
    exact .inl rfl

theorem exists_scale_zero (k : ℤ) : ∃ size, scale 0 k = .ok size ∧ IsFinite size ∧ toRational size = 0 := by
  have hzero : IsFinite 0 ∧ toRational 0 = 0 := by
    rw [isWhole_zero.toRational_eq, Int.cast_zero]
    exact ⟨isWhole_zero.finite, rfl⟩
  rcases lt_or_ge k 0 with hk | hk
  · exact ⟨0, scale_zero hk, hzero⟩
  have hcast : (0 : ℕ).toUInt64.toFloat = 0 := rfl
  rw [scale]
  simp only [if_neg hk.not_gt, hcast]
  split
  · rename_i hle
    obtain ⟨p, hp⟩ : ∃ p, p = powerOfTen k.natAbs := ⟨_, rfl⟩
    obtain ⟨hfinite, -⟩ := one_le_powerOfTen hp hle
    have hrounded := mul_rounded hzero.1 hfinite (by
      rw [hzero.2, zero_mul, abs_zero]
      positivity)
    rw [hzero.2, zero_mul] at hrounded
    rw [← hp, isInf_of_isFinite hrounded.finite, if_neg Bool.false_ne_true]
    exact ⟨_, rfl, hrounded.finite, hrounded.toRational_eq.trans nearest_zero⟩
  · exact ⟨0, rfl, hzero⟩

/-- Without a sign nothing is read as a number below zero. -/
theorem scale_nonneg (hm : m < UInt64.size) (k : ℤ) :
    scale m k = .error .numberTooLarge ∨ ∃ size, scale m k = .ok size ∧ IsFinite size ∧ 0 ≤ toRational size := by
  rcases Nat.eq_zero_or_pos m with rfl | hpos
  · obtain ⟨size, hsize, hfinite, hzero⟩ := exists_scale_zero k
    exact .inr ⟨size, hsize, hfinite, hzero.ge⟩
  have hten : 0 ≤ nearest ((10 : ℚ)^k.natAbs) := by
    exact_mod_cast nearest_natCast_nonneg (10^k.natAbs)
  have hrational : ∀ {size : Float} {q : ℚ}, IsRounded size q → 0 ≤ q → 0 ≤ toRational size := by
    intro size q hrounded hq
    rw [hrounded.toRational_eq, ← nearest_zero]
    exact nearest_mono hq
  rcases lt_or_ge k 0 with hk | hk
  · rcases lt_or_ge k (-308) with hlo | hlo
    · obtain ⟨size, hsize, hwithin⟩ := scale_within hm hlo
      exact .inr ⟨size, hsize, hwithin.finite, hwithin.nonneg⟩
    · obtain ⟨size, hsize, hrounded⟩ := scale_rounded hm hk hlo
      exact .inr ⟨size, hsize, hrounded.finite, hrational hrounded (div_nonneg (nearest_natCast_nonneg m) hten)⟩
  · refine (scale_of_nonneg hm hpos hk).imp_right ?_
    rintro ⟨size, hsize, hrounded⟩
    exact ⟨size, hsize, hrounded.finite, hrational hrounded (mul_nonneg (nearest_natCast_nonneg m) hten)⟩

/-- A whole number is read as the number nearest to it. -/
theorem scale_whole (hm : m < UInt64.size) : scale m 0 = .ok m.toUInt64.toFloat := by
  rcases Nat.eq_zero_or_pos m with rfl | hpos
  · decide +kernel
  have hx := natCast_rounded hm
  have hx0 := nearest_natCast_pos hpos
  obtain ⟨p, hp⟩ : ∃ p, p = powerOfTen 0 := ⟨_, rfl⟩
  obtain ⟨hfinite, -⟩ := one_le_powerOfTen hp (by norm_num)
  have hone : toRational p = 1 := by
    rw [(powerOfTen_rounded hp (by norm_num)).toRational_eq, pow_zero, nearest_one]
  have hproduct := mul_rounded hx.finite hfinite (by
    rw [hone, mul_one, hx.toRational_eq, abs_of_pos hx0]
    exact (nearest_lt_of_lt hm).trans_lt (zpow_lt_zpow_right₀ (by norm_num) (by norm_num)))
  rw [hone, mul_one] at hproduct
  have hsame : m.toUInt64.toFloat * p = m.toUInt64.toFloat := by
    have heq := hproduct.toRational_eq.trans (nearest_toRational hx.finite)
    exact eq_of_toRational_eq hproduct.finite hx.finite heq (by rw [heq, hx.toRational_eq]; exact hx0.ne')
  rw [scale]
  simp only [lt_irrefl, if_false, Int.natAbs_zero, Nat.zero_le, if_true, ← hp, hsame, isInf_of_isFinite hx.finite,
    Bool.false_eq_true]

section Above

private theorem lastPlace_near_two {x : ℚ} (hlow : 2 ≤ x) (hhigh : x < 4) : lastPlace x = -51 := by
  refine lastPlace_eq (.inl ?_) ?_ (by linarith) (by norm_num)
  · norm_num
    exact hlow
  · norm_num
    exact hhigh

/-- What lies above two by more than half of a place is not rounded to two. -/
theorem two_lt_nearest {x : ℚ} (h : 2 + 5/2 * 2^(-53 : ℤ) ≤ x) : 2 < nearest x := by
  have hnear := abs_nearest_sub_le_half (2 + 5/2 * 2^(-53 : ℤ))
  rw [lastPlace_near_two (by norm_num) (by norm_num)] at hnear
  have hmono := nearest_mono h
  norm_num at hnear hmono
  linarith [(abs_le.1 hnear).1]

private theorem le_of_le_nearest {x : ℚ} (h : 2 + 2^(-50 : ℤ) ≤ nearest x) : 2 + 5 * 2^(-53 : ℤ) ≤ x := by
  by_contra hlt
  have hmono := nearest_mono (not_le.1 hlt).le
  have hnear := abs_nearest_sub_le_half (2 + 5 * 2^(-53 : ℤ))
  rw [lastPlace_near_two (by norm_num) (by norm_num)] at hnear
  norm_num at hnear hmono h
  linarith [(abs_le.1 hnear).2]

private theorem two_lt_scale_of_gap (hm : m < UInt64.size) (hk : k < 0) (hgap : 2 + 2^(-50 : ℤ) ≤ nearest (m * 10^k)) :
    ∃ size, scale m k = .ok size ∧ IsFinite size ∧ 2 < toRational size := by
  have hvalue := le_of_le_nearest hgap
  have hlo : -22 ≤ k := by
    by_contra hlo
    have := value_small hm (not_le.1 hlo)
    norm_num at hvalue
    linarith
  obtain ⟨size, hsize, hrounded⟩ := scale_rounded_exact hm hk hlo
  refine ⟨size, hsize, hrounded.finite, ?_⟩
  rw [hrounded.toRational_eq]
  refine two_lt_nearest ?_
  have hten : (0 : ℚ) < 10^k.natAbs := by positivity
  have hdigits := (abs_le.1 (abs_nearest_natCast_sub_le m)).1
  rw [mul_zpow_eq_div m hk] at hvalue
  have hratio : (m : ℚ) / 10^k.natAbs * (1 - 2^(-53 : ℤ)) ≤ nearest m / 10^k.natAbs := by
    rw [div_mul_eq_mul_div]
    exact div_le_div_of_nonneg_right (by linarith) hten.le
  refine le_trans ?_ hratio
  calc
    (2 : ℚ) + 5/2 * 2^(-53 : ℤ) ≤ (2 + 5 * 2^(-53 : ℤ)) * (1 - 2^(-53 : ℤ)) := by norm_num
    _ ≤ m / 10^k.natAbs * (1 - 2^(-53 : ℤ)) := mul_le_mul_of_nonneg_right hvalue (by norm_num)

-- The shortest decimal of the first number above two, with or without zeros behind it.
private theorem two_lt_scale_of_eq (hm : m < UInt64.size) (hv : (m : ℚ) * 10^k = 20000000000000004 * 10^(-16 : ℤ)) :
    ∃ size, scale m k = .ok size ∧ IsFinite size ∧ 2 < toRational size := by
  have hread : scale m k = .ok 2.0000000000000004 := by
    rcases lt_or_ge k (-16) with hlo | hlo
    · obtain ⟨j, rfl⟩ : ∃ j : ℕ, k = -16 - j := ⟨(-16 - k).toNat, by omega⟩
      have hdigits : m = 20000000000000004 * 10^j := by
        rw [zpow_sub₀ (by norm_num), zpow_natCast, mul_div_assoc', div_eq_iff (by positivity), mul_right_comm] at hv
        exact_mod_cast mul_right_cancel₀ (by positivity) hv
      have hj : j ≤ 2 := by
        by_contra hj
        have hle := Nat.pow_le_pow_right (n := 10) (by norm_num) (not_le.1 hj)
        have hsize : UInt64.size = 18446744073709551616 := rfl
        omega
      subst hdigits
      interval_cases j <;> decide +kernel
    · obtain ⟨j, rfl⟩ : ∃ j : ℕ, k = -16 + j := ⟨(k + 16).toNat, by omega⟩
      have hdigits : m * 10^j = 20000000000000004 := by
        rw [zpow_add₀ (by norm_num), zpow_natCast, mul_comm ((10 : ℚ)^(-16 : ℤ)), ← mul_assoc] at hv
        exact_mod_cast mul_right_cancel₀ (by positivity) hv
      obtain rfl : j = 0 := by
        by_contra hj
        have hdvd : 10 ∣ m * 10^j := (dvd_pow_self 10 hj).mul_left m
        rw [hdigits] at hdvd
        omega
      rw [pow_zero, mul_one] at hdigits
      subst hdigits
      decide +kernel
  refine ⟨_, hread, (isFinite_iff _).1 (by decide +kernel), ?_⟩
  have hlt : (2 : Float) < 2.0000000000000004 := by decide +kernel
  have htwo : toRational 2 = 2 := isWhole_two.toRational_eq
  exact htwo ▸ (lt_iff.1 hlt).2.2

private theorem three_le_product {n : ℕ} (hlt : 2 < (m : ℚ) * 10^n) : 3 ≤ nearest m * nearest (10^n) := by
  rcases Nat.eq_zero_or_pos n with rfl | hn
  · have hm3 : (3 : ℚ) ≤ m := by
      rw [pow_zero, mul_one] at hlt
      exact_mod_cast hlt
    rw [pow_zero, nearest_one, mul_one, ← nearest_three]
    exact nearest_mono hm3
  · have hpos : 0 < m := by
      refine Nat.pos_of_ne_zero ?_
      rintro rfl
      norm_num at hlt
    have hdigits : nearest 1 ≤ nearest m := nearest_mono (by exact_mod_cast hpos)
    have hten : nearest 3 ≤ nearest ((10 : ℚ)^n) := by
      refine nearest_mono ((by norm_num : (3 : ℚ) ≤ 10^1).trans ?_)
      exact pow_le_pow_right₀ (by norm_num) hn
    rw [nearest_one] at hdigits
    rw [nearest_three] at hten
    nlinarith

/-- A decimal above two that is the shortest of a number is read as a number above two, or it is too large. -/
theorem two_lt_scale (hm : m < UInt64.size) (hlt : 2 < (m : ℚ) * 10^k)
    (hgap : 2 + 2^(-50 : ℤ) ≤ nearest (m * 10^k) ∨ (m : ℚ) * 10^k = 20000000000000004 * 10^(-16 : ℤ)) :
    scale m k = .error .numberTooLarge ∨ ∃ size, scale m k = .ok size ∧ IsFinite size ∧ 2 < toRational size := by
  rcases lt_or_ge k 0 with hk | hk
  · exact .inr (hgap.elim (two_lt_scale_of_gap hm hk) (two_lt_scale_of_eq hm))
  have hpos : 0 < m := by
    refine Nat.pos_of_ne_zero ?_
    rintro rfl
    norm_num at hlt
  refine (scale_of_nonneg hm hpos hk).imp_right ?_
  rintro ⟨size, hsize, hrounded⟩
  refine ⟨size, hsize, hrounded.finite, ?_⟩
  obtain ⟨n, rfl⟩ := Int.eq_ofNat_of_zero_le hk
  have hmono := nearest_mono (three_le_product hlt)
  rw [nearest_three] at hmono
  rw [hrounded.toRational_eq, Int.natAbs_natCast]
  linarith

end Above

end Scale

end CallOrder.Json.Numeral
