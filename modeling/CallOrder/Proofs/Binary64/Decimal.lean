import CallOrder.Decimal.Notation
import CallOrder.Decimal.Reading
import CallOrder.Proofs.Binary64.Canonical
import CallOrder.Proofs.Decimal.Shortest

/-! Decimals and numbers. A decimal is read as the number nearest to it, and the shortest decimal of a number is one
whose nearest number it is. -/
namespace CallOrder.Binary64
open Decimal Float.Model Float.Model.UnpackedFloat

theorem nearestInt_eq {x : ℚ} {n : ℤ} (h : |x - n| ≤ 1/2) (heven : |x - n| = 1/2 → n % 2 = 0) : nearestInt x = n := by
  rw [abs_le] at h
  have hfract := Int.fract_add_floor x
  rcases lt_or_ge x n with hlt | hge
  · have hfloor : ⌊x⌋ = n - 1 := by
      rw [Int.floor_eq_iff]
      push_cast
      exact ⟨by linarith, by linarith⟩
    rw [hfloor] at hfract
    push_cast at hfract
    unfold nearestInt
    rw [hfloor]
    split_ifs with hbelow habove
    · linarith
    · omega
    · have := heven (by rw [abs_of_neg (by linarith)]; linarith)
      omega
  · have hfloor : ⌊x⌋ = n := by
      rw [Int.floor_eq_iff]
      exact ⟨hge, by linarith⟩
    rw [hfloor] at hfract
    unfold nearestInt
    rw [hfloor]
    split_ifs with hbelow habove
    · rfl
    · linarith
    · have := heven (by rw [abs_of_nonneg (by linarith)]; linarith)
      omega

/-- The least exponent of a leading bit that is kept. -/
theorem lastPlace_eq {x : ℚ} {e : ℤ} (hlow : 2^(e + 52) ≤ x ∨ e = -1074) (hhigh : x < 2^(e + 53)) (hpos : 0 < x)
    (he : -1074 ≤ e) : lastPlace x = e := by
  have hlog : Int.log 2 |x| < e + 53 := by
    rw [← zpow_lt_zpow_iff_right₀ (show (1 : ℚ) < 2 by norm_num)]
    exact (zpow_log_le_abs hpos.ne').trans_lt (by rwa [abs_of_pos hpos])
  rw [lastPlace]
  rcases hlow with hlow | rfl
  · have hlog' : e + 52 < Int.log 2 |x| + 1 := by
      rw [← zpow_lt_zpow_iff_right₀ (show (1 : ℚ) < 2 by norm_num)]
      exact (hlow.trans_eq (abs_of_pos hpos).symm).trans_lt (abs_lt_zpow_log x)
    omega
  · omega

/-- A rational within half a place of a number is rounded to it; half a place away only if its last digit is even. -/
theorem nearest_eq {x : ℚ} {n : ℕ} {e : ℤ} (hplace : lastPlace x = e) (h : |x - n * 2^e| ≤ 2^e / 2)
    (heven : |x - n * 2^e| = 2^e / 2 → n % 2 = 0) : nearest x = n * 2^e := by
  have hp : (0 : ℚ) < 2^e := by positivity
  have hdiv : |x / 2^e - (n : ℤ)| = |x - n * 2^e| / 2^e := by
    rw [← abs_of_pos hp, ← abs_div, abs_of_pos hp, sub_div, mul_div_cancel_right₀ _ hp.ne', Int.cast_natCast]
  rw [nearest, hplace, nearestInt_eq (n := n), Int.cast_natCast]
  · rw [hdiv, div_le_iff₀ hp]
    linarith
  · rw [hdiv, div_eq_iff hp.ne']
    intro heq
    have := heven (by linarith)
    omega

private theorem two_zpow_quarter (e : ℤ) : (2 : ℚ)^(e - 2) = 2^e / 4 := by
  rw [zpow_sub₀ (by norm_num)]
  norm_num

/-- What denotes a number is within half a place of it. -/
theorem near_of_denotes {m : ℕ} {e : ℤ} (hpos : 0 < m) {x : ℚ} (hx : Denotes m e x) :
    |x - m * 2^e| ≤ 2^e / 2 ∧ (|x - m * 2^e| = 2^e / 2 → m % 2 = 0) := by
  obtain ⟨hlow, hhigh, hwithin⟩ := hx
  rw [two_zpow_quarter] at hlow hhigh hwithin
  have hp : (0 : ℚ) < 2^e := by positivity
  have hfirst : 4 * (m : ℚ) - 2 ≤ (quarters m e).1 := by
    rw [sub_le_iff_le_add]
    simp only [quarters]
    exact_mod_cast (show 4 * m ≤ 4 * m - _ + 2 by split <;> omega)
  have hlast : ((quarters m e).2 : ℚ) = 4 * m + 2 := by
    simp only [quarters]
    push_cast
    rfl
  have hfirst' := mul_le_mul_of_nonneg_right hfirst (show (0 : ℚ) ≤ 2^e / 4 by positivity)
  rw [hlast] at hhigh hwithin
  refine ⟨abs_le.2 ⟨by linarith, by linarith⟩, fun heq => ?_⟩
  by_contra hodd
  obtain ⟨hlow', hhigh'⟩ := hwithin hodd
  rcases abs_cases (x - m * 2^e) with ⟨habs, -⟩ | ⟨habs, -⟩ <;> rw [habs] at heq <;> linarith

-- Below a power of two the places are finer, and half of one of them is still enough.
private theorem nearest_below_power {e : ℤ} (he : -1074 < e) {x : ℚ} (hx : Denotes (2^52) e x) (hbelow : x < 2^(e + 52)) :
    nearest x = (2^52 : ℕ) * 2^e := by
  have hlow := hx.low
  have hquarters : ((quarters (2^52) e).1 : ℚ) = 2^54 - 1 := by
    rw [quarters, if_pos (by simp [hiddenBit, he])]
    norm_num
  have hhalf : (2 : ℚ)^e = 2 * 2^(e - 1) := by
    rw [zpow_sub₀ (by norm_num)]
    ring
  have hp : (0 : ℚ) < 2^(e - 1) := by positivity
  rw [hquarters, two_zpow_quarter, hhalf] at hlow
  rw [zpow_add₀ (by norm_num), hhalf] at hbelow
  norm_num at hbelow hlow
  have hvalue : ((2^52 : ℕ) : ℚ) * 2^e = (2^53 : ℕ) * 2^(e - 1) := by
    rw [hhalf]
    push_cast
    ring
  have hdiff : |x - (2^53 : ℕ) * 2^(e - 1)| ≤ 2^(e - 1) / 2 := by
    rw [abs_le]
    norm_num
    exact ⟨by linarith, by linarith⟩
  rw [hvalue]
  refine nearest_eq (lastPlace_eq (.inl ?_) ?_ (by linarith) (by omega)) hdiff fun _ => by norm_num
  · rw [zpow_add₀ (by norm_num)]
    norm_num
    linarith
  · rw [zpow_add₀ (by norm_num)]
    norm_num
    linarith

/-- A rational that denotes a number is rounded to it. -/
theorem nearest_of_denotes {m : ℕ} {e : ℤ} (h : IsCanonical m e) (hpos : 0 < m) {x : ℚ} (hx : Denotes m e x) :
    nearest x = m * 2^e := by
  obtain ⟨hnear, heven⟩ := near_of_denotes hpos hx
  have hp : (0 : ℚ) < 2^e := by positivity
  have hone : (1 : ℚ) ≤ m := by exact_mod_cast hpos
  obtain ⟨hnear₁, hnear₂⟩ := abs_le.1 hnear
  have hx0 : 0 < x := by nlinarith
  have hhigh : x < 2^(e + 53) := by
    have hlt : (m : ℚ) + 1 ≤ 2^(53 : ℤ) := by exact_mod_cast h.lt
    rw [zpow_add₀ (by norm_num)]
    nlinarith
  rcases le_or_gt ((2 : ℚ)^(e + 52)) x with hlow | hbelow
  · exact nearest_eq (lastPlace_eq (.inl hlow) hhigh hx0 h.le) hnear heven
  rcases h.le.lt_or_eq with hle | rfl
  · have hm : m = 2^52 := by
      refine le_antisymm (le_of_not_gt fun hgt => hbelow.not_ge ?_) (h.full.resolve_right hle.ne')
      have hgt' : (2 : ℚ)^(52 : ℤ) + 1 ≤ m := by exact_mod_cast hgt
      rw [zpow_add₀ (by norm_num)]
      nlinarith
    subst hm
    exact nearest_below_power hle hx hbelow
  · exact nearest_eq (lastPlace_eq (.inr rfl) hhigh hx0 le_rfl) hnear heven

theorem shortest_zero (tie : Tie) (e : ℤ) : shortest tie 0 e = ⟨0, 0⟩ := if_pos rfl

/-- The shortest decimal of a number is rounded to it. -/
theorem nearest_shortest (tie : Tie) {m : ℕ} {e : ℤ} (h : IsCanonical m e) :
    nearest (shortest tie m e).value = m * 2^e := by
  rcases Nat.eq_zero_or_pos m with rfl | hpos
  · rw [shortest_zero]
    simp [Scaled.value]
  · exact nearest_of_denotes h hpos (shortest_spec tie hpos h.lt e).1

/-- Whether a sign is the negative one. -/
def isNegative : Sign → Bool
  | .positive => false
  | .negative => true

/-- The parts of an unpacked number. -/
def partsOf : UnpackedFloat → Parts
  | .notANumber => .nan
  | .infinity s => .infinite (isNegative s)
  | .zero s => .finite (isNegative s) 0 (-1074)
  | .finite s m e _ => .finite (isNegative s) m e

section Fields
variable (b : BitVec 64)

private theorem toNat_mantissa : (@unpackMantissa Format.binary64 b).toNat = b.toNat % hiddenBit := by
  simp [unpackMantissa, hiddenBit]

private theorem toNat_exponent : (@unpackExponent Format.binary64 b).toNat = b.toNat / hiddenBit % 2048 := by
  simp [unpackExponent, hiddenBit, Nat.shiftRight_eq_div_pow]

private theorem isNegative_sign : isNegative (Sign.ofBitVec (@unpackSign Format.binary64 b)) = b.toNat.testBit 63 := by
  have hbit : (@unpackSign Format.binary64 b).toNat = b.toNat / 2^63 % 2 := by
    simp [unpackSign, Nat.shiftRight_eq_div_pow]
  rw [Nat.testBit_eq_decide_div_mod_eq, ← hbit, Sign.ofBitVec]
  split
  · rename_i hzero
    rw [hzero]
    rfl
  · rename_i hone
    have hne : (@unpackSign Format.binary64 b).toNat ≠ 0 := fun h => hone (BitVec.eq_of_toNat_eq h)
    have hlt : (@unpackSign Format.binary64 b).toNat < 2^1 := BitVec.isLt _
    rw [show (@unpackSign Format.binary64 b).toNat = 1 by omega]
    rfl

private theorem exponent_eq_iff (e : BitVec 11) :
    @unpackExponent Format.binary64 b = e ↔ b.toNat / hiddenBit % 2048 = e.toNat := by
  rw [← toNat_exponent, ← BitVec.toNat_inj]

private theorem mantissa_eq_zero_iff : @unpackMantissa Format.binary64 b = 0#52 ↔ b.toNat % hiddenBit = 0 := by
  rw [← toNat_mantissa, ← BitVec.toNat_inj]
  rfl

private theorem toNat_significand :
    (1#1 ++ @unpackMantissa Format.binary64 b).toNat = hiddenBit + b.toNat % hiddenBit := by
  rw [← toNat_mantissa]
  exact toNat_one_append _

end Fields

theorem ofFloat_eq (x : Float) : Parts.ofFloat x = partsOf x.toModel.unpack := by
  change Parts.ofBits x.toModel.toBits.toBitVec.toNat = partsOf (UnpackedFloat.unpack Format.binary64 x.toModel.toBits.toBitVec)
  generalize x.toModel.toBits.toBitVec = b
  have hbias : (Format.binary64.exponentBias : ℤ) + (52 : ℕ) = 1075 := by decide
  have hinfinite : @unpackExponent Format.binary64 b = -1#11 ↔ b.toNat / hiddenBit % 2048 = 2047 := exponent_eq_iff b _
  have hsubnormal : @unpackExponent Format.binary64 b = 0#11 ↔ b.toNat / hiddenBit % 2048 = 0 := exponent_eq_iff b _
  have hzero := mantissa_eq_zero_iff b
  have hone := toNat_significand b
  unfold UnpackedFloat.unpack
  dsimp only
  rw [hbias, Parts.ofBits, ← isNegative_sign]
  simp only [hinfinite, hsubnormal, hzero]
  split
  · split <;> rfl
  · split
    · rename_i hexp
      split
      · rename_i hman
        rw [hman]
        rfl
      · simp only [partsOf, toNat_mantissa, toNat_exponent, hexp]
        rfl
    · simp only [partsOf, hone, toNat_exponent]

private def isPowerOfTen (k : ℕ) : UnpackedFloat → Bool
  | .finite .positive m e _ => m * 2^e.toNat = 10^k * 2^(-e).toNat
  | _ => false

/-- The powers of ten that have a number of their own, from the table of them. -/
theorem powerOfTen_value {k : ℕ} (hk : k < Float.exactlyRepresentablePowersOfTen.size) :
    IsFinite Float.exactlyRepresentablePowersOfTen[k] ∧ toRational Float.exactlyRepresentablePowersOfTen[k] = 10^k := by
  have htable : ∀ k : Fin 23, isPowerOfTen k Float.exactlyRepresentablePowersOfTen[k].toModel.unpack = true := by
    decide +kernel
  have h : isPowerOfTen k Float.exactlyRepresentablePowersOfTen[k].toModel.unpack = true := htable ⟨k, hk⟩
  unfold IsFinite toRational
  generalize Float.exactlyRepresentablePowersOfTen[k].toModel.unpack = u at *
  unfold isPowerOfTen at h
  split at h
  · rename_i m e _
    refine ⟨trivial, ?_⟩
    have hQ : (m : ℚ) * 2^e.toNat = 10^k * 2^(-e).toNat := by exact_mod_cast of_decide_eq_true h
    rw [zpow_toNat (by norm_num) e] at hQ
    simp only [unpackedRational, Sign.apply, Int.cast_natCast]
    refine mul_left_cancel₀ (show (2 : ℚ)^(-e).toNat ≠ 0 by positivity) ?_
    linarith
  · cases h

theorem nearest_eq_zero {x : ℚ} (h : |x| < 2^(-1075 : ℤ)) : nearest x = 0 := by
  rcases eq_or_ne x 0 with rfl | hx
  · exact nearest_zero
  have hlog : Int.log 2 |x| < -1075 := by
    rw [← zpow_lt_zpow_iff_right₀ (show (1 : ℚ) < 2 by norm_num)]
    exact (zpow_log_le_abs hx).trans_lt h
  have hplace : lastPlace x = -1074 := max_eq_right (by omega)
  have hhalf : (2 : ℚ)^(-1074 : ℤ) / 2 = 2^(-1075 : ℤ) := by
    rw [show (-1074 : ℤ) = -1075 + 1 by norm_num, zpow_add_one₀ (by norm_num)]
    ring
  have hnear := nearest_eq (n := 0) hplace (by rw [hhalf, Nat.cast_zero, zero_mul, sub_zero]; exact h.le) fun _ => rfl
  rw [hnear, Nat.cast_zero, zero_mul]

theorem limit_le_nearest {x : ℚ} (h : limit ≤ x) : limit ≤ nearest x := by
  have hmono := nearest_mono h
  have hlimit := nearest_eq_self (k := 1) (e := 1024) (by norm_num) (by norm_num)
  rw [Int.cast_one, one_mul] at hlimit
  exact hlimit.symm.trans_le hmono

section OfScientific
variable {m : ℕ} {k : ℤ}

/-- A decimal with places after the point as a quotient. -/
theorem mul_zpow_eq_div (m : ℕ) (hk : k < 0) : (m : ℚ) * 10^k = m / 10^k.natAbs := by
  rw [show k = -(k.natAbs : ℤ) by omega, zpow_neg, zpow_natCast, Int.natAbs_neg, Int.natAbs_natCast, div_eq_mul_inv]

-- Both significand and power of ten are exact, and so the product or quotient is rounded once.
private theorem ofScientific_small (hm : m < 2^53) (hk : k.natAbs ≤ 22) :
    IsRounded (Float.ofScientific m (k < 0) k.natAbs) (m * 10^k) := by
  obtain ⟨hfinite, hvalue⟩ := natCast_exact hm
  obtain ⟨hpower, hten⟩ := powerOfTen_value (k := k.natAbs) (Nat.lt_succ_of_le hk)
  have hmQ : (m : ℚ) ≤ 2^53 := by exact_mod_cast hm.le
  have hpow : (10 : ℚ)^k.natAbs ≤ 10^22 := pow_le_pow_right₀ (by norm_num) hk
  have hone : (1 : ℚ) ≤ 10^k.natAbs := one_le_pow₀ (by norm_num)
  have hbound : (2 : ℚ)^53 * 10^22 < 2^(1023 : ℤ) := by
    have hsmall : (2 : ℚ)^53 * 10^22 < 2^(127 : ℤ) := by norm_num
    exact hsmall.trans_le (zpow_le_zpow_right₀ (by norm_num) (by norm_num))
  have hsize : k.natAbs < Float.exactlyRepresentablePowersOfTen.size := Nat.lt_succ_of_le hk
  rw [Float.ofScientific, dif_pos ⟨hm, hk⟩]
  dsimp only
  generalize Float.exactlyRepresentablePowersOfTen[k.natAbs] = p at *
  generalize m.toUInt64.toFloat = x at *
  rcases lt_or_ge k 0 with hneg | hnonneg
  · have hlim : |toRational x / toRational p| < 2^(1023 : ℤ) := by
      rw [hvalue, hten, abs_of_nonneg (div_nonneg (Nat.cast_nonneg m) (by positivity))]
      have hself : (m : ℚ) / 10^k.natAbs ≤ 2^53 := (div_le_self (Nat.cast_nonneg m) hone).trans hmQ
      have hmax : (2 : ℚ)^53 ≤ 2^53 * 10^22 := by norm_num
      exact (hself.trans hmax).trans_lt hbound
    have h := div_rounded hfinite hpower (by rw [hten]; positivity) hlim
    rw [hvalue, hten] at h
    rw [mul_zpow_eq_div m hneg]
    simpa [hneg] using h
  · have hproduct : (m : ℚ) * 10^k = m * 10^k.natAbs := by
      rw [← zpow_natCast, show ((k.natAbs : ℕ) : ℤ) = k by omega]
    have hlim : |toRational x * toRational p| < 2^(1023 : ℤ) := by
      rw [hvalue, hten, abs_of_nonneg (mul_nonneg (Nat.cast_nonneg m) (by positivity))]
      exact (mul_le_mul hmQ hpow (by positivity) (by positivity)).trans_lt hbound
    have h := mul_rounded hfinite hpower hlim
    rw [hvalue, hten] at h
    rw [hproduct]
    simpa [not_lt.2 hnonneg] using h

private theorem signed_natAbs (k : ℤ) : (if decide (k < 0) = true then Int.negOfNat k.natAbs else Int.ofNat k.natAbs) = k := by
  split
  · rename_i hneg
    have := of_decide_eq_true hneg
    rw [Int.negOfNat_eq, Int.ofNat_eq_natCast]
    omega
  · rename_i hnonneg
    rw [decide_eq_true_eq] at hnonneg
    exact Int.natAbs_of_nonneg (not_lt.1 hnonneg)

private theorem product_value (m : ℕ) (hk : 0 ≤ k) : ((Sign.positive.apply ((m <<< 53 : ℕ) : ℤ) : ℤ) : ℚ) * 2^(-53 : ℤ) *
    ((Sign.positive.apply ((10^k.toNat : ℕ) : ℤ) : ℤ) * 2^(0 : ℤ)) = m * 10^k := by
  rw [Sign.apply, Sign.apply, Int.cast_natCast, Int.cast_natCast, shifted_value, zpow_zero, mul_one]
  push_cast
  rw [← zpow_natCast, Int.toNat_of_nonneg hk]

private theorem quotient_value (m : ℕ) (hk : k < 0) : ((Sign.positive.apply (m : ℤ) : ℤ) : ℚ) * 2^(0 : ℤ) /
    ((Sign.positive.apply ((10^(-k).toNat : ℕ) : ℤ) : ℤ) * 2^(0 : ℤ)) = m * 10^k := by
  rw [Sign.apply, Sign.apply, Int.cast_natCast, Int.cast_natCast, zpow_zero, mul_one, mul_one]
  push_cast
  rw [← zpow_natCast, Int.toNat_of_nonneg (by omega), zpow_neg, div_inv_eq_mul]

-- The product or quotient is taken exactly here, with as many digits as it has, and then rounded.
private theorem ofScientific_large (hpos : 0 < m) (hlarge : ¬ (m < 2^53 ∧ k.natAbs ≤ 22)) (hlo : -2048 - (m.log2 : ℤ) ≤ k)
    (hhi : k ≤ 2048) (hlim : nearest (m * 10^k) < limit) :
    IsRounded (Float.ofScientific m (k < 0) k.natAbs) (m * 10^k) := by
  have hbits : (2 : ℤ)^Format.binary64.exponentBits = 2048 := by decide
  rw [Float.ofScientific, dif_neg hlarge]
  dsimp only
  rw [signed_natAbs]
  change IsRounded (.ofModel (.pack (UnpackedFloat.ofScientific Format.binary64 m k))) _
  refine IsNearest.pack ?_
  have hnonneg : 0 ≤ nearest ((m : ℚ) * 10^k) := by
    rw [← nearest_zero]
    exact nearest_mono (by positivity)
  rw [UnpackedFloat.ofScientific, dif_neg hpos.ne', if_neg (by omega), if_neg (by omega)]
  split
  · rename_i hk
    have hten : 0 < 10^k.toNat := by positivity
    have hshift : 2^52 ≤ m <<< 53 * 10^k.toNat := by
      rw [Nat.shiftLeft_eq]
      exact le_trans (by omega) (Nat.le_mul_of_pos_right _ hten)
    have h := product_nearest .positive .positive (m := m <<< 53) (n := 10^k.toNat) (e := -53) (f := 0)
      (by rw [Nat.shiftLeft_eq]; positivity) hten (.inl hshift)
      (by rw [product_value m hk, abs_of_nonneg hnonneg]; exact hlim)
    rwa [product_value m hk] at h
  · rename_i hk
    have hten : 0 < 10^(-k).toNat := by positivity
    have h := quotient_nearest .positive .positive (m := m) (n := 10^(-k).toNat) (e := 0) (f := 0) hpos hten
      (by rw [quotient_value m (not_le.1 hk), abs_of_nonneg hnonneg]; exact hlim)
    rwa [quotient_value m (not_le.1 hk)] at h

end OfScientific

private theorem two_zpow_lt_ten : (2 : ℚ)^(1089 : ℤ) < 10^(330 : ℤ) := by
  calc
    (2 : ℚ)^(1089 : ℤ) = (2^(33 : ℤ))^33 := by rw [← zpow_natCast, ← zpow_mul]; rfl
    _ < (10^(10 : ℤ))^33 := pow_lt_pow_left₀ (by norm_num) (by norm_num) (by norm_num)
    _ = 10^(330 : ℤ) := by rw [← zpow_natCast, ← zpow_mul]; rfl

section Extremes
variable {m : ℕ} {k : ℤ} {count : ℕ}

private theorem nearest_of_tiny (hhigh : (m : ℚ) < 10^(count : ℤ)) (hsmall : k + count < -330) : nearest (m * 10^k) = 0 := by
  refine nearest_eq_zero ?_
  rw [abs_of_nonneg (by positivity)]
  calc
    (m : ℚ) * 10^k < 10^(count : ℤ) * 10^k := mul_lt_mul_of_pos_right hhigh (by positivity)
    _ = 10^(k + count) := by rw [← zpow_add₀ (by norm_num), add_comm]
    _ ≤ 10^(-330 : ℤ) := zpow_le_zpow_right₀ (by norm_num) hsmall.le
    _ ≤ 2^(-1089 : ℤ) := by
      rw [zpow_neg, zpow_neg]
      exact inv_anti₀ (by positivity) two_zpow_lt_ten.le
    _ ≤ 2^(-1075 : ℤ) := zpow_le_zpow_right₀ (by norm_num) (by norm_num)

private theorem limit_le_huge (hlow : (10 : ℚ)^((count : ℤ) - 1) ≤ m) (hlarge : 330 < k + count) :
    limit ≤ nearest (m * 10^k) := by
  refine limit_le_nearest ?_
  calc
    limit ≤ 2^(1089 : ℤ) := zpow_le_zpow_right₀ (by norm_num) (by norm_num)
    _ ≤ 10^(330 : ℤ) := two_zpow_lt_ten.le
    _ ≤ 10^((count : ℤ) - 1 + k) := zpow_le_zpow_right₀ (by norm_num) (by omega)
    _ = 10^((count : ℤ) - 1) * 10^k := zpow_add₀ (by norm_num) _ _
    _ ≤ m * 10^k := mul_le_mul_of_nonneg_right hlow (by positivity)

private theorem le_log2 (hne : m ≠ 0) (hcount : 0 < count) (hlow : (10 : ℚ)^((count : ℤ) - 1) ≤ m) :
    count - 1 ≤ m.log2 := by
  rw [Nat.le_log2 hne]
  rw [show (count : ℤ) - 1 = (count - 1 : ℕ) by omega, zpow_natCast] at hlow
  have hten : 10^(count - 1) ≤ m := by exact_mod_cast hlow
  exact (Nat.pow_le_pow_left (by norm_num) _).trans hten

end Extremes

/-- A decimal is read as the number nearest to it, if that is within reach. -/
theorem nearestFloat_rounded {m : ℕ} {k : ℤ} (hlim : nearest (m * 10^k) < limit) :
    IsRounded (nearestFloat m k) (m * 10^k) := by
  have hzero : nearest (m * 10^k) = 0 → IsRounded 0 (m * 10^k) := fun h =>
    ⟨isWhole_zero.finite, by rw [isWhole_zero.toRational_eq, h, Int.cast_zero]⟩
  unfold nearestFloat
  dsimp only
  rcases Nat.eq_zero_or_pos m with rfl | hpos
  · rw [if_pos (by simp)]
    exact hzero (by rw [Nat.cast_zero, zero_mul, nearest_zero])
  obtain ⟨hlow, hhigh⟩ := digitsOf_bounds hpos
  rw [digitsOf] at hlow hhigh
  obtain ⟨count, hcount⟩ : ∃ count, count = (Nat.toDigits 10 m).length := ⟨_, rfl⟩
  rw [← hcount] at hlow hhigh ⊢
  have hmne : m ≠ 0 := hpos.ne'
  simp only [hmne, decide_false, Bool.false_or, decide_eq_true_eq]
  split
  · exact hzero (nearest_of_tiny hhigh ‹_›)
  split
  · exact absurd (limit_le_huge hlow ‹_›) (not_le.2 hlim)
  · have hlog := le_log2 hmne (hcount ▸ Nat.length_toDigits_pos) hlow
    by_cases hsmall : m < 2^53 ∧ k.natAbs ≤ 22
    · exact ofScientific_small hsmall.1 hsmall.2
    · exact ofScientific_large hpos hsmall (by omega) (by omega) hlim

theorem isFinite_iff (x : Float) : x.isFinite = true ↔ IsFinite x := by
  change x.toModel.unpack.isFinite = true ↔ IsProper x.toModel.unpack
  cases x.toModel.unpack <;> simp [UnpackedFloat.isFinite, IsProper]

/-- A finite number has parts of its own, with a significand of zero if it is a zero. -/
theorem parts_of_finite {x : Float} (hx : IsFinite x) : ∃ s m e, x.toModel.unpack = ofParts s m e ∧ IsCanonical m e ∧
    e ≤ 971 ∧ Parts.ofFloat x = .finite (isNegative s) m e := by
  have hregular := unpack_regular x.toModel
  have hparts := ofFloat_eq x
  unfold IsFinite at hx
  generalize x.toModel.unpack = u at *
  cases u with
  | infinity s => exact hx.elim
  | notANumber => exact hx.elim
  | zero s => exact ⟨s, 0, -1074, rfl, ⟨by norm_num, le_rfl, .inr rfl⟩, by norm_num, hparts⟩
  | finite s m e hm =>
    obtain ⟨hlt, hlo, hhi, hfull⟩ := hregular
    have hofParts : ofParts s m e = .finite s m e hm := dif_neg hm.ne'
    exact ⟨s, m, e, hofParts.symm, ⟨hlt, hlo, hfull⟩, hhi, hparts⟩

theorem toRational_of_parts {x : Float} {negative : Bool} {m : ℕ} {e : ℤ} (hx : IsFinite x)
    (hparts : Parts.ofFloat x = .finite negative m e) : toRational x = (if negative then -1 else 1) * (m * 2^e) := by
  obtain ⟨s, m', e', hunpack, -, -, hparts'⟩ := parts_of_finite hx
  rw [hparts] at hparts'
  cases hparts'
  rw [toRational, hunpack, unpackedRational_ofParts]
  cases s <;> simp [isNegative, Sign.apply]

private theorem nearestFloat_zero (k : ℤ) : nearestFloat 0 k = 0 := by simp [nearestFloat]

/-- A finite number is written as a spelling of its shortest decimal, with its sign. -/
theorem spells_spellParts {style : Notation} (hstyle : style.IsExplicit) {x : Float} (hx : IsFinite x) :
    ∃ negative m e, Parts.ofFloat x = .finite negative m e ∧ IsCanonical m e ∧ ∃ spelling text,
      style.Spells (shortest style.tie m e) spelling text ∧
        style.spellParts (.ofFloat x) = (if negative then ['-'] else []) ++ text := by
  obtain ⟨s, m, e, -, hcanonical, -, hparts⟩ := parts_of_finite hx
  have hzero : (shortest style.tie m e).digits = 0 → (shortest style.tie m e).exponent = 0 := by
    rcases Nat.eq_zero_or_pos m with rfl | hpos
    · rw [shortest_zero]
      exact fun _ => rfl
    · exact fun h => absurd h (shortest_spec style.tie hpos hcanonical.lt e).2.1.ne'
  obtain ⟨spelling, h⟩ := Notation.spells_spellScaled hstyle hzero
  refine ⟨isNegative s, m, e, hparts, hcanonical, spelling, _, h, ?_⟩
  rw [hparts, Notation.spellParts]

private theorem finite_of_parts {x : Float} {negative : Bool} {m : ℕ} {e : ℤ}
    (hparts : Parts.ofFloat x = .finite negative m e) : IsFinite x := by
  rw [ofFloat_eq] at hparts
  unfold IsFinite
  generalize x.toModel.unpack = u at *
  cases u <;> simp_all [partsOf, IsProper]

private theorem nearestFloat_unpack {m : ℕ} {e : ℤ} (h : IsCanonical m e) (hpos : 0 < m) (hreach : e ≤ 971) {digits : ℕ}
    {k : ℤ} (hnearest : nearest (digits * 10^k) = m * 2^e) :
    (nearestFloat digits k).toModel.unpack = ofParts .positive m e := by
  obtain ⟨hregular, hproper⟩ := h.regular .positive hreach
  have hlim : nearest (digits * 10^k) < limit := by
    rw [hnearest]
    exact magnitude_lt h.lt (by omega)
  have hrounded := nearestFloat_rounded hlim
  -- The number with these parts is finite and has the same value, which is not zero.
  obtain ⟨z, hz⟩ : ∃ z : Float, z.toModel.unpack = ofParts .positive m e :=
    ⟨.ofModel (.pack (ofParts .positive m e)), unpack_pack hregular⟩
  have hzrational : toRational z = m * 2^e := by
    rw [toRational, hz, unpackedRational_ofParts, Sign.apply, Int.cast_one, one_mul]
  have hzfinite : IsFinite z := by
    rw [IsFinite, hz]
    exact hproper
  have hsame : nearestFloat digits k = z := by
    refine eq_of_toRational_eq hrounded.finite hzfinite ?_ ?_
    · rw [hrounded.toRational_eq, hnearest, hzrational]
    · rw [hrounded.toRational_eq, hnearest]
      positivity
  rw [hsame, hz]

/-- The shortest decimal of a number, in whichever way it is spelled, is read as that number, to the sign of zero. -/
theorem shortest_reads_back {x : Float} {negative : Bool} {m : ℕ} {e : ℤ} (tie : Tie)
    (hparts : Parts.ofFloat x = .finite negative m e) {digits : ℕ} {k : ℤ}
    (hvalue : (digits : ℚ) * 10^k = (shortest tie m e).value) :
    (if negative then -nearestFloat digits k else nearestFloat digits k) = x := by
  obtain ⟨s, m', e', hunpack, hcanonical, hreach, hparts'⟩ := parts_of_finite (finite_of_parts hparts)
  rw [hparts] at hparts'
  cases hparts'
  have hread : (nearestFloat digits k).toModel.unpack = ofParts .positive m e := by
    rcases Nat.eq_zero_or_pos m with rfl | hpos
    · rw [shortest_zero, Scaled.value, Nat.cast_zero, zero_mul, mul_eq_zero, Nat.cast_eq_zero,
        or_iff_left (by positivity)] at hvalue
      rw [hvalue, nearestFloat_zero]
      rfl
    · exact nearestFloat_unpack hcanonical hpos hreach (hvalue ▸ nearest_shortest tie hcanonical)
  refine eq_of_unpack_eq ?_
  rw [hunpack]
  cases s with
  | positive => exact hread
  | negative =>
    change (-nearestFloat digits k).toModel.unpack = _
    rw [unpack_neg, hread]
    unfold ofParts
    split <;> rfl

end CallOrder.Binary64
