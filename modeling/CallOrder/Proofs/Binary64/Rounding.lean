import CallOrder.Proofs.Binary64.Nearest
import CallOrder.Proofs.Binary64.Value

/-! The rounding of significands and exponents is rounding to the nearest number. A significand that
is shifted to the right keeps two bits of what it loses; they say all that rounding needs. -/
namespace CallOrder.Binary64
open Float.Model Float.Model.UnpackedFloat

/-- The quantities of which a significand and its two further bits are a summary. -/
def Describes : ExtendedMantissa → ℚ → Prop
  | ⟨m, false, false⟩, x => x = m
  | ⟨m, false, true⟩, x => m < x ∧ x < m + 1/2
  | ⟨m, true, false⟩, x => x = m + 1/2
  | ⟨m, true, true⟩, x => m + 1/2 < x ∧ x < m + 1

theorem Describes.floor_eq {em : ExtendedMantissa} {x : ℚ} (h : Describes em x) : ⌊x⌋ = em.mantissa := by
  obtain ⟨m, r, s⟩ := em
  rw [Int.floor_eq_iff]
  cases r <;> cases s <;> simp only [Describes] at h
  · simp [h]
  · exact ⟨by push_cast; linarith, by push_cast; linarith⟩
  · exact ⟨by push_cast; linarith, by push_cast; linarith⟩
  · exact ⟨by push_cast; linarith, by push_cast; linarith⟩

/-- The summary suffices for rounding. -/
theorem Describes.roundedMantissa_eq {em : ExtendedMantissa} {x : ℚ} (h : Describes em x) :
    (em.roundedMantissa : ℤ) = nearestInt x := by
  have hfloor := h.floor_eq
  have hfract : Int.fract x = x - em.mantissa := by rw [Int.fract, hfloor, Int.cast_natCast]
  obtain ⟨m, r, s⟩ := em
  simp only at hfloor hfract
  unfold nearestInt
  rw [hfract, hfloor]
  cases r <;> cases s <;> simp only [Describes] at h
  · rw [if_pos (by linarith)]
    rfl
  · rw [if_pos (by linarith)]
    rfl
  · rw [if_neg (by linarith), if_neg (by linarith)]
    simp [ExtendedMantissa.roundedMantissa, ExtendedMantissa.accuracy, Accuracy.roundToNearestEven]
  · rw [if_neg (by linarith), if_pos (by linarith)]
    rfl

private theorem shiftRightOne_eq (k : Nat) (b r s : Bool) :
    ExtendedMantissa.shiftRightOne ⟨2 * k + b.toNat, r, s⟩ = ⟨k, b, r || s⟩ := by
  have hdiv : (2 * k + b.toNat) / 2 = k := by have := Bool.toNat_le b; omega
  have hmod : (2 * k + b.toNat) % 2 = b.toNat := by have := Bool.toNat_le b; omega
  rw [ExtendedMantissa.shiftRightOne, hdiv, hmod]
  cases b <;> rfl

/-- Half of a quantity is described by the summary that is shifted by one place. -/
theorem Describes.shiftRightOne {em : ExtendedMantissa} {x : ℚ} (h : Describes em x) :
    Describes em.shiftRightOne (x / 2) := by
  obtain ⟨m, r, s⟩ := em
  obtain ⟨k, b, rfl⟩ : ∃ k, ∃ b : Bool, m = 2 * k + b.toNat := by
    rcases Nat.mod_two_eq_zero_or_one m with hm | hm
    · exact ⟨m / 2, false, by simp; omega⟩
    · exact ⟨m / 2, true, by simp; omega⟩
  rw [shiftRightOne_eq]
  cases b <;> cases r <;> cases s <;>
    simp only [Describes, Bool.toNat_false, Bool.toNat_true, Bool.or_false, Bool.or_true,
      add_zero, Nat.cast_add, Nat.cast_mul, Nat.cast_ofNat, Nat.cast_one] at h ⊢
  · linarith
  · exact ⟨by linarith, by linarith⟩
  · exact ⟨by linarith, by linarith⟩
  · exact ⟨by linarith, by linarith⟩
  · linarith
  · exact ⟨by linarith, by linarith⟩
  · exact ⟨by linarith, by linarith⟩
  · exact ⟨by linarith, by linarith⟩

theorem Describes.shiftRight {em : ExtendedMantissa} {x : ℚ} (h : Describes em x) (n : Nat) :
    Describes (em >>> n) (x / 2^n) := by
  induction n with
  | zero =>
    rw [pow_zero, div_one]
    exact h
  | succ n ih =>
    rw [pow_succ, ← div_div]
    exact ih.shiftRightOne

theorem targetExponent_def (total : ℤ) : Format.binary64.targetExponent total = max (total - 53) (-1074) := by
  have hbits : (Format.binary64.mantissaBits : ℤ) = 53 := by decide
  have hmin : Format.binary64.minExponent = -1074 := by decide
  rw [Format.targetExponent, hbits, hmin]

theorem targetExponent_eq (m : Nat) (e : ℤ) :
    Format.binary64.targetExponent (totalExponent m e) = max (m.log2 + e - 52) (-1074) := by
  rw [targetExponent_def, totalExponent]
  congr 1
  ring

private theorem log_mul_zpow {m : Nat} (hm : 0 < m) {x : ℚ} (hlo : m ≤ x) (hhi : x < m + 1) (e : ℤ) :
    Int.log 2 (x * 2^e) = m.log2 + e := by
  have hx : 0 < x := lt_of_lt_of_le (by exact_mod_cast hm) hlo
  have hp : (0 : ℚ) < 2^e := by positivity
  have hlo' : (2 : ℚ)^(m.log2 + e) ≤ x * 2^e := by
    have h : ((2 ^ m.log2 : Nat) : ℚ) ≤ m := by exact_mod_cast Nat.log2_self_le hm.ne'
    rw [zpow_add₀ (by norm_num), zpow_natCast]
    push_cast at h
    exact mul_le_mul_of_nonneg_right (h.trans hlo) hp.le
  have hhi' : x * 2^e < (2 : ℚ)^(m.log2 + e + 1) := by
    have h : ((m + 1 : Nat) : ℚ) ≤ ((2 ^ (m.log2 + 1) : Nat) : ℚ) := by exact_mod_cast Nat.lt_log2_self
    rw [show (m.log2 : ℤ) + e + 1 = (m.log2 + 1 : Nat) + e by push_cast; ring, zpow_add₀ (by norm_num), zpow_natCast]
    push_cast at h
    exact mul_lt_mul_of_pos_right (hhi.trans_le h) hp
  apply le_antisymm
  · have := (Int.lt_zpow_iff_log_lt (b := 2) (by norm_num) (mul_pos hx hp)).mp (by exact_mod_cast hhi')
    omega
  · exact (Int.zpow_le_iff_le_log (b := 2) (by norm_num) (mul_pos hx hp)).mp (by exact_mod_cast hlo')

private theorem targetExponent_eq_lastPlace {m : Nat} {e : ℤ} {x : ℚ} (hx : 0 < x) (hlo : m ≤ x)
    (hhi : x < m + 1) (he : e ≤ Format.binary64.targetExponent (totalExponent m e)) :
    Format.binary64.targetExponent (totalExponent m e) = lastPlace (x * 2^e) := by
  have hp : (0 : ℚ) < 2^e := by positivity
  rw [targetExponent_eq] at he ⊢
  rw [lastPlace, abs_of_pos (mul_pos hx hp)]
  rcases Nat.eq_zero_or_pos m with rfl | hm
  · have hlog : Int.log 2 (x * 2^e) < e := by
      apply (Int.lt_zpow_iff_log_lt (b := 2) (by norm_num) (mul_pos hx hp)).mp
      push_cast at hhi ⊢
      nlinarith
    rw [Nat.log2_zero] at he ⊢
    omega
  · rw [log_mul_zpow hm hlo hhi]

/-- The number is regular, and its rational is the one nearest to a given rational. -/
structure IsNearest (u : UnpackedFloat) (x : ℚ) : Prop where
  regular : IsRegular u
  proper : IsProper u
  rational_eq : unpackedRational u = nearest x

/-- The number with these parts; a significand of zero makes a zero. -/
def ofParts (s : Sign) (m : Nat) (e : ℤ) : UnpackedFloat :=
  if h : m = 0 then .zero s else .finite s m e (Nat.pos_of_ne_zero h)

theorem unpackedRational_ofParts (s : Sign) (m : Nat) (e : ℤ) :
    unpackedRational (ofParts s m e) = s.apply 1 * (m * 2^e) := by
  unfold ofParts
  split_ifs with h
  · simp [h, unpackedRational]
  · cases s <;> simp [unpackedRational, Sign.apply]

/-- A significand with as many bits as there is room for, at an exponent that may be out of reach. -/
structure IsCanonical (m : Nat) (e : ℤ) : Prop where
  lt : m < 2^53
  le : -1074 ≤ e
  full : 2^52 ≤ m ∨ e = -1074

theorem IsCanonical.regular {m : Nat} {e : ℤ} (h : IsCanonical m e) (s : Sign) (he : e ≤ 971) :
    IsRegular (ofParts s m e) ∧ IsProper (ofParts s m e) := by
  unfold ofParts
  split_ifs
  · exact ⟨trivial, trivial⟩
  · exact ⟨⟨h.lt, h.le, he, h.full⟩, trivial⟩

/-- Numbers below the limit have an exponent within reach. -/
theorem IsCanonical.exponent_le {m : Nat} {e : ℤ} (h : IsCanonical m e) (hlim : (m : ℚ) * 2^e < limit) : e ≤ 971 := by
  rcases h.full with hm | rfl
  · have hpow := (le_magnitude (e := e) hm).trans_lt hlim
    have hexp := (zpow_lt_zpow_iff_right₀ (by norm_num : (1 : ℚ) < 2)).mp hpow
    omega
  · norm_num

private theorem shift_exact (r : Nat) (t : ℤ) {n : Nat}
    (h : (Format.binary64.targetExponent (totalExponent r t) - t).toNat = n) :
    shiftToTargetExponent Format.binary64 r t .exact =
      (ExtendedMantissa.mk r false false >>> n, t + n) := by
  subst h
  rfl

/-- A rounded significand may have one bit too many; the shift that removes it loses nothing. -/
private theorem carry_spec {r : Nat} {t : ℤ} (hr : r ≤ 2^53) (hlo : -1074 ≤ t) (hcase : 2^52 ≤ r ∨ t = -1074)
    {last : ExtendedMantissa × ℤ} (hlast : last = shiftToTargetExponent Format.binary64 r t .exact) :
    IsCanonical last.1.mantissa last.2 ∧ (last.1.mantissa : ℚ) * 2^last.2 = r * 2^t := by
  rcases hr.lt_or_eq with hlt | rfl
  · have hlog : r.log2 ≤ 52 := by
      rcases Nat.eq_zero_or_pos r with rfl | hpos
      · simp
      · have := (Nat.log2_lt hpos.ne').mpr hlt
        omega
    rw [shift_exact r t (n := 0) (by rw [targetExponent_eq]; omega), Nat.cast_zero, add_zero] at hlast
    subst hlast
    exact ⟨⟨hlt, hlo, hcase⟩, rfl⟩
  · rw [shift_exact (2^53) t (n := 1) (by rw [targetExponent_eq, Nat.log2_two_pow]; omega)] at hlast
    subst hlast
    change IsCanonical (2^52) (t + 1) ∧ ((2^52 : Nat) : ℚ) * 2^(t + 1) = _
    refine ⟨⟨by norm_num, by omega, Or.inl le_rfl⟩, ?_⟩
    rw [zpow_add₀ (by norm_num)]
    push_cast
    ring

theorem cast_apply (s : Sign) (n : Nat) : ((s.apply n : ℤ) : ℚ) = s.apply 1 * n := by
  cases s <;> simp [Sign.apply]

theorem abs_cast_apply (s : Sign) : |((s.apply 1 : ℤ) : ℚ)| = 1 := by
  cases s <;> simp [Sign.apply]

theorem signed_nearest (s : Sign) (x : ℚ) :
    nearest (s.apply 1 * x) = s.apply 1 * nearest x := by
  cases s
  · simp [Sign.apply, nearest_neg]
  · simp [Sign.apply]

private theorem scaled_lt (x : ℚ) : x / 2^lastPlace x < 2^53 := by
  have hp : (0 : ℚ) < 2^lastPlace x := by positivity
  rw [div_lt_iff₀ hp, ← zpow_natCast, ← zpow_add₀ (by norm_num)]
  refine ((le_abs_self x).trans_lt (abs_lt_zpow_log x)).trans_le ?_
  apply zpow_le_zpow_right₀ (by norm_num)
  have := log_sub_le_lastPlace x
  push_cast
  omega

private theorem le_scaled {x : ℚ} (hx : 0 < x) : 2^52 ≤ x / 2^lastPlace x ∨ lastPlace x = -1074 := by
  rcases max_choice (Int.log 2 |x| - 52) (-1074) with h | h
  · left
    have hp : (0 : ℚ) < 2^lastPlace x := by positivity
    have hlog := zpow_log_le_abs hx.ne'
    have hlast : (52 : ℕ) + lastPlace x = Int.log 2 |x| := by
      rw [lastPlace, h]
      ring
    rw [le_div_iff₀ hp, ← zpow_natCast, ← zpow_add₀ (by norm_num), hlast]
    rwa [abs_of_pos hx] at hlog ⊢
  · exact Or.inr h

private theorem roundWithAccuracy_eq (s : Sign) (m : Nat) (e : ℤ) (accuracy : Accuracy) :
    roundWithAccuracy Format.binary64 s m e accuracy =
      let first := shiftToTargetExponent Format.binary64 m e accuracy
      let last := shiftToTargetExponent Format.binary64 first.1.roundedMantissa first.2 .exact
      ofParts s last.1.mantissa last.2 := rfl

/-- Rounding a significand, with what is known of the places behind it, gives the parts of the nearest number. -/
theorem roundWithAccuracy_canonical (s : Sign) {m : Nat} {e : ℤ} {accuracy : Accuracy} {x : ℚ}
    (hd : Describes (.ofMantissaAndAccuracy m accuracy) x) (hx : 0 < x)
    (he : e ≤ Format.binary64.targetExponent (totalExponent m e)) :
    ∃ r t, roundWithAccuracy Format.binary64 s m e accuracy = ofParts s r t ∧ IsCanonical r t ∧
      (r : ℚ) * 2^t = nearest (x * 2^e) := by
  have hfloor := hd.floor_eq
  have hmantissa : (ExtendedMantissa.ofMantissaAndAccuracy m accuracy).mantissa = m := by
    cases accuracy with
    | exact => rfl
    | inexact o => cases o <;> rfl
  rw [hmantissa, Int.floor_eq_iff] at hfloor
  have ht := targetExponent_eq_lastPlace hx (by exact_mod_cast hfloor.1) (by exact_mod_cast hfloor.2) he
  have hpos : 0 < x * 2^e := mul_pos hx (by positivity)
  have hscaled : x / 2^(lastPlace (x * 2^e) - e).toNat = x * 2^e / 2^lastPlace (x * 2^e) := by
    rw [← zpow_natCast, Int.toNat_of_nonneg (by omega), zpow_sub₀ (by norm_num), div_div_eq_mul_div]
  generalize x * 2^e = X at *
  -- the first shift brings the significand to its last place, where it is rounded
  have hshift : shiftToTargetExponent Format.binary64 m e accuracy =
      (ExtendedMantissa.ofMantissaAndAccuracy m accuracy >>> (lastPlace X - e).toNat, lastPlace X) := by
    unfold shiftToTargetExponent shiftToExponent
    rw [ht] at he ⊢
    simp only [Prod.mk.injEq, true_and]
    omega
  have hr := (hd.shiftRight (lastPlace X - e).toNat).roundedMantissa_eq
  rw [hscaled] at hr
  rw [roundWithAccuracy_eq, hshift]
  dsimp only
  generalize (ExtendedMantissa.ofMantissaAndAccuracy m accuracy >>> (lastPlace X - e).toNat).roundedMantissa = r at *
  have hhi : (r : ℤ) ≤ 2^53 := by
    have h := nearestInt_mono (scaled_lt X).le
    rw [← hr] at h
    exact_mod_cast h.trans_eq (nearestInt_intCast (2^53))
  have hlo : 2^52 ≤ r ∨ lastPlace X = -1074 := by
    refine (le_scaled hpos).imp_left fun h => ?_
    have h' := nearestInt_mono h
    rw [← hr] at h'
    exact_mod_cast (nearestInt_intCast (2^52)).symm.trans_le h'
  obtain ⟨hcanonical, hvalue⟩ := carry_spec (by exact_mod_cast hhi) (neg_le_lastPlace X) hlo rfl
  refine ⟨_, _, rfl, hcanonical, ?_⟩
  rw [hvalue, nearest, ← hr, Int.cast_natCast]

theorem nearest_lt_limit {x : ℚ} (h : x < 2^(1023 : ℤ)) : nearest x < limit := by
  have hmono := nearest_mono h.le
  have hpow : nearest (2^(1023 : ℤ)) = 2^(1023 : ℤ) := by
    have h := nearest_eq_self (k := 1) (e := 1023) (by norm_num) (by norm_num)
    rwa [Int.cast_one, one_mul] at h
  rw [hpow] at hmono
  exact hmono.trans_lt (zpow_lt_zpow_right₀ (by norm_num) (by norm_num))

theorem abs_nearest_lt_limit {x : ℚ} (h : |x| < 2^(1023 : ℤ)) : |nearest x| < limit := by
  rw [abs_lt] at h ⊢
  have hneg := nearest_lt_limit (x := -x) (by linarith)
  rw [nearest_neg] at hneg
  exact ⟨by linarith, nearest_lt_limit h.2⟩

/-- The nearest number, if it is within reach. -/
theorem roundWithAccuracy_nearest (s : Sign) {m : Nat} {e : ℤ} {accuracy : Accuracy} {x : ℚ}
    (hd : Describes (.ofMantissaAndAccuracy m accuracy) x) (hx : 0 < x)
    (he : e ≤ Format.binary64.targetExponent (totalExponent m e)) (hlim : nearest (x * 2^e) < limit) :
    IsNearest (roundWithAccuracy Format.binary64 s m e accuracy) (s.apply 1 * (x * 2^e)) := by
  obtain ⟨r, t, hparts, hcanonical, hvalue⟩ := roundWithAccuracy_canonical s hd hx he
  rw [← hvalue] at hlim
  obtain ⟨hregular, hproper⟩ := hcanonical.regular s (hcanonical.exponent_le hlim)
  rw [hparts]
  refine ⟨hregular, hproper, ?_⟩
  rw [unpackedRational_ofParts, signed_nearest, hvalue]

theorem describes_exact (m : Nat) : Describes (.ofMantissaAndAccuracy m .exact) m := rfl

private theorem decreaseExponent_eq (m : Nat) (e t : ℤ) :
    decreaseExponent m e t = (m * 2^(e - t).toNat, e - (e - t).toNat) := by
  rw [decreaseExponent, Nat.shiftLeft_eq]

/-- A significand times a power of two does not depend on where its last place is put. -/
theorem decreaseExponent_value (m : Nat) (e t : ℤ) :
    ((decreaseExponent m e t).1 : ℚ) * 2^(decreaseExponent m e t).2 = m * 2^e := by
  rw [decreaseExponent_eq]
  push_cast
  rw [← zpow_natCast, mul_assoc, ← zpow_add₀ (by norm_num)]
  congr 2
  ring

private theorem totalExponent_decreaseExponent {m : Nat} (hm : 0 < m) (e t : ℤ) :
    totalExponent (decreaseExponent m e t).1 (decreaseExponent m e t).2 = totalExponent m e := by
  have hlog : (m * 2^(e - t).toNat).log2 = m.log2 + (e - t).toNat := by
    rw [Nat.log2_eq_iff (by positivity), pow_add, pow_succ, pow_add]
    have hp : 0 < 2^(e - t).toNat := by positivity
    have hhi : m < 2^m.log2 * 2 := Nat.lt_log2_self
    exact ⟨Nat.mul_le_mul_right _ (Nat.log2_self_le hm.ne'), by nlinarith⟩
  rw [decreaseExponent_eq, totalExponent, hlog, totalExponent]
  push_cast
  ring

/-- Rounding a finite number gives the nearest one. -/
theorem round_nearest (s : Sign) {m : Nat} (hm : 0 < m) {e : ℤ} (hlim : (m : ℚ) * 2^e < 2^(1023 : ℤ)) :
    IsNearest (UnpackedFloat.round Format.binary64 s m e) (s.apply 1 * (m * 2^e)) := by
  let t := Format.binary64.targetExponent (totalExponent m e)
  have htotal := totalExponent_decreaseExponent hm e t
  have hvalue := decreaseExponent_value m e t
  have hpos : 0 < (decreaseExponent m e t).1 := by
    rw [decreaseExponent_eq]
    positivity
  have hle : (decreaseExponent m e t).2 ≤ t := by
    rw [decreaseExponent_eq]
    dsimp only
    omega
  rw [← hvalue] at hlim ⊢
  apply roundWithAccuracy_nearest s (describes_exact _) (by exact_mod_cast hpos) _ (nearest_lt_limit hlim)
  rw [htotal]
  exact hle

/-- Rounding a signed significand gives the nearest number. -/
theorem normalize_nearest (m : ℤ) {e : ℤ} (zeroSign : Sign) (hlim : |(m : ℚ) * 2^e| < 2^(1023 : ℤ)) :
    IsNearest (UnpackedFloat.normalize Format.binary64 m e zeroSign) (m * 2^e) := by
  rw [abs_mul, abs_of_pos (show (0 : ℚ) < 2^e by positivity)] at hlim
  unfold UnpackedFloat.normalize
  rcases lt_trichotomy m 0 with hm | rfl | hm
  · obtain ⟨n, rfl⟩ : ∃ n : ℕ, m = -n := ⟨(-m).toNat, by omega⟩
    rw [compare_lt_iff_lt.mpr hm]
    have h := round_nearest .negative (m := n) (e := e) (by omega) (by simpa using hlim)
    simpa [Sign.apply] using h
  · exact ⟨trivial, trivial, by simp [unpackedRational]⟩
  · obtain ⟨n, rfl⟩ : ∃ n : ℕ, m = n := ⟨m.toNat, by omega⟩
    rw [compare_gt_iff_gt.mpr hm]
    have h := round_nearest .positive (m := n) (e := e) (by omega) (by simpa using hlim)
    simpa [Sign.apply] using h

end CallOrder.Binary64
