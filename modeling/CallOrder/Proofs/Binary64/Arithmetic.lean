import CallOrder.Proofs.Binary64.Rounding

/-! Sums, differences and quotients of numbers, and the numbers of natural numbers, are the exact
results rounded once, as long as they stay within the range of binary64. -/
namespace CallOrder.Binary64
open Float.Model Float.Model.UnpackedFloat

/-- A number that is finite, and so stands for its rational. -/
def IsFinite (x : Float) : Prop := IsProper x.toModel.unpack

theorem IsFinite.isNaN {x : Float} (h : IsFinite x) : x.isNaN = false := by
  change x.toModel.unpack.isNaN = false
  unfold IsFinite at h
  cases hu : x.toModel.unpack <;> simp_all [IsProper, UnpackedFloat.isNaN]

/-- The number with the value of a rational, rounded. -/
structure IsRounded (x : Float) (q : ℚ) : Prop where
  finite : IsFinite x
  toRational_eq : toRational x = nearest q

theorem IsNearest.pack {u : UnpackedFloat} {q : ℚ} (h : IsNearest u q) :
    IsRounded (.ofModel (.pack u)) q := by
  have hu := unpack_pack h.regular
  refine ⟨?_, ?_⟩
  · change IsProper (Float.Model.pack u).unpack
    rw [hu]
    exact h.proper
  · change unpackedRational (Float.Model.pack u).unpack = _
    rw [hu]
    exact h.rational_eq

private theorem IsNearest.of_regular {u : UnpackedFloat} (hu : IsRegular u) (hp : IsProper u) :
    IsNearest u (unpackedRational u) := by
  refine ⟨hu, hp, ?_⟩
  cases u with
  | infinity s => exact hp.elim
  | notANumber => exact hp.elim
  | zero s => simp [unpackedRational]
  | finite s m e hm =>
    obtain ⟨hm, he, -, -⟩ := hu
    have habs : |(s.apply m : ℤ)| < 2^53 := by
      cases s <;> simp only [Sign.apply, abs_neg, Nat.abs_cast] <;> exact_mod_cast hm
    exact (nearest_eq_self habs he).symm

/-- A number is nearest to the rational that it stands for. -/
theorem nearest_toRational {x : Float} (h : IsFinite x) : nearest (toRational x) = toRational x :=
  (IsNearest.of_regular (unpack_regular x.toModel) h).rational_eq.symm

private theorem apply_decreaseExponent (s : Sign) (m : Nat) {e t : ℤ} (h : t ≤ e) :
    ((s.apply ((decreaseExponent m e t).1 : ℤ) : ℤ) : ℚ) * 2^t = s.apply m * 2^e := by
  have hvalue := decreaseExponent_value m e t
  have hexp : (decreaseExponent m e t).2 = t := by
    simp only [decreaseExponent]
    omega
  rw [hexp] at hvalue
  cases s <;> simp only [Sign.apply, Int.cast_neg, Int.cast_natCast, neg_mul, hvalue]

private theorem zero_nearest (s : Sign) : IsNearest (.zero s) 0 :=
  ⟨trivial, trivial, nearest_zero.symm⟩

private theorem sum_nearest {u v : UnpackedFloat} (hru : IsRegular u) (hrv : IsRegular v) (hu : IsProper u)
    (hv : IsProper v) (hlim : |unpackedRational u + unpackedRational v| < 2^(1023 : ℤ)) :
    IsNearest (UnpackedFloat.add Format.binary64 u v) (unpackedRational u + unpackedRational v) := by
  cases u with
  | infinity s => exact hu.elim
  | notANumber => exact hu.elim
  | zero s =>
    cases v with
    | infinity t => exact hv.elim
    | notANumber => exact hv.elim
    | zero t =>
      rw [show unpackedRational (.zero s) + unpackedRational (.zero t) = 0 from add_zero 0]
      cases s <;> cases t <;> exact zero_nearest _
    | finite t n f hn =>
      have h := IsNearest.of_regular hrv hv
      rwa [← zero_add (unpackedRational _)] at h
  | finite s m e hm =>
    cases v with
    | infinity t => exact hv.elim
    | notANumber => exact hv.elim
    | zero t =>
      have h := IsNearest.of_regular hru hu
      rwa [← add_zero (unpackedRational _)] at h
    | finite t n f hn =>
      have hsum := add_mul ((s.apply ((decreaseExponent m e (min e f)).1 : ℤ) : ℤ) : ℚ)
        ((t.apply ((decreaseExponent n f (min e f)).1 : ℤ) : ℤ) : ℚ) (2^min e f)
      rw [apply_decreaseExponent s m (min_le_left e f), apply_decreaseExponent t n (min_le_right e f),
        ← Int.cast_add] at hsum
      simp only [unpackedRational] at hlim ⊢
      rw [← hsum] at hlim ⊢
      exact normalize_nearest _ .positive hlim

/-- A sum is the exact sum, rounded. -/
theorem add_rounded {x y : Float} (hx : IsFinite x) (hy : IsFinite y)
    (hlim : |toRational x + toRational y| < 2^(1023 : ℤ)) :
    IsRounded (x + y) (toRational x + toRational y) :=
  (sum_nearest (unpack_regular x.toModel) (unpack_regular y.toModel) hx hy hlim).pack

theorem neg_regular {u : UnpackedFloat} (h : IsRegular u) : IsRegular u.neg := by
  cases u <;> exact h

theorem neg_proper {u : UnpackedFloat} (h : IsProper u) : IsProper u.neg := by
  cases u <;> exact h

theorem unpackedRational_neg (u : UnpackedFloat) : unpackedRational u.neg = -unpackedRational u := by
  cases u with
  | infinity s => cases s <;> simp [UnpackedFloat.neg, unpackedRational, Sign.apply]
  | notANumber => simp [UnpackedFloat.neg, unpackedRational]
  | zero s => simp [UnpackedFloat.neg, unpackedRational]
  | finite s m e hm => cases s <;> simp [UnpackedFloat.neg, unpackedRational, Sign.apply]

theorem unpack_neg (x : Float) : (-x).toModel.unpack = x.toModel.unpack.neg :=
  unpack_pack (neg_regular (unpack_regular x.toModel))

theorem IsFinite.neg {x : Float} (h : IsFinite x) : IsFinite (-x) := by
  rw [IsFinite, unpack_neg]
  exact neg_proper h

theorem toRational_neg (x : Float) : toRational (-x) = -toRational x := by
  rw [toRational, unpack_neg, unpackedRational_neg, toRational]

private theorem unpacked_sub_eq (u v : UnpackedFloat) :
    UnpackedFloat.sub Format.binary64 u v = UnpackedFloat.add Format.binary64 u v.neg := by
  cases u with
  | notANumber => cases v <;> rfl
  | infinity s => cases v <;> rfl
  | zero s => cases v <;> rfl
  | finite s m e hm =>
    cases v with
    | finite t n f hn =>
      cases t <;> simp [UnpackedFloat.sub, UnpackedFloat.add, UnpackedFloat.neg, Sign.apply, sub_eq_add_neg]
    | _ => rfl

/-- A difference is the exact difference, rounded. -/
theorem sub_rounded {x y : Float} (hx : IsFinite x) (hy : IsFinite y)
    (hlim : |toRational x - toRational y| < 2^(1023 : ℤ)) :
    IsRounded (x - y) (toRational x - toRational y) := by
  have hneg := unpackedRational_neg y.toModel.unpack
  have hdiff : toRational x - toRational y =
      unpackedRational x.toModel.unpack + unpackedRational y.toModel.unpack.neg := by
    rw [hneg, ← sub_eq_add_neg]
    rfl
  rw [hdiff] at hlim ⊢
  have h := sum_nearest (unpack_regular x.toModel) (neg_regular (unpack_regular y.toModel)) hx (neg_proper hy) hlim
  rw [← unpacked_sub_eq] at h
  exact h.pack

private theorem describes_accuracyOfFraction (a : Nat) {b : Nat} (hb : 0 < b) :
    Describes (.ofMantissaAndAccuracy (a / b) (accuracyOfFraction (a % b) b)) ((a : ℚ) / b) := by
  have hb' : (0 : ℚ) < b := by exact_mod_cast hb
  have hsplit : (a : ℚ) = b * (a / b : ℕ) + (a % b : ℕ) := by exact_mod_cast (Nat.div_add_mod a b).symm
  have hlt : ((a % b : ℕ) : ℚ) < b := by exact_mod_cast Nat.mod_lt a hb
  have hquot : (a : ℚ) / b = (a / b : ℕ) + (a % b : ℕ) / b := by
    rw [hsplit]
    field_simp
  rw [hquot]
  generalize a % b = r at *
  generalize a / b = q at *
  rcases Nat.eq_zero_or_pos r with rfl | hr
  · simp [accuracyOfFraction, Describes, ExtendedMantissa.ofMantissaAndAccuracy]
  have hr' : (0 : ℚ) < r / b := div_pos (by exact_mod_cast hr) hb'
  rw [accuracyOfFraction, if_neg hr.ne']
  rcases lt_trichotomy (2 * r) b with h | h | h
  · have hhalf : (r : ℚ) / b < 1/2 := by
      rw [div_lt_div_iff₀ hb' (by norm_num)]
      exact_mod_cast (by omega : r * 2 < 1 * b)
    rw [compare_lt_iff_lt.mpr h]
    exact ⟨by linarith, by linarith⟩
  · have hhalf : (r : ℚ) / b = 1/2 := by
      rw [div_eq_div_iff hb'.ne' (by norm_num)]
      exact_mod_cast (by omega : r * 2 = 1 * b)
    rw [compare_eq_iff_eq.mpr h, hhalf]
    rfl
  · have hhalf : 1/2 < (r : ℚ) / b := by
      rw [div_lt_div_iff₀ (by norm_num) hb']
      exact_mod_cast (by omega : 1 * b < r * 2)
    have hone : (r : ℚ) / b < 1 := (div_lt_one hb').mpr hlt
    rw [compare_gt_iff_gt.mpr h]
    exact ⟨by linarith, by linarith⟩

private theorem totalExponent_div_le {m n : Nat} (hm : 0 < m) (hn : 0 < n) (k : Nat) :
    m.log2 + k ≤ (m * 2^k / n).log2 + 1 + n.log2 := by
  by_contra hc
  have hnum : 2^(m.log2 + k) ≤ m * 2^k := by
    rw [pow_add]
    exact Nat.mul_le_mul_right _ (Nat.log2_self_le hm.ne')
  have hquot : m * 2^k < 2^(m.log2 + k) := by
    calc
      m * 2^k < n * (m * 2^k / n + 1) := Nat.lt_mul_div_succ _ hn
      _ ≤ 2^(n.log2 + 1) * 2^((m * 2^k / n).log2 + 1) :=
        Nat.mul_le_mul Nat.lt_log2_self.le Nat.lt_log2_self
      _ ≤ 2^(m.log2 + k) := by
        rw [← pow_add]
        exact Nat.pow_le_pow_right (by norm_num) (by omega)
  omega

private theorem cast_apply_div (s t : Sign) : (((s / t).apply 1 : ℤ) : ℚ) = s.apply 1 / t.apply 1 := by
  cases s <;> cases t <;> decide +kernel

private theorem cast_apply_mul (s t : Sign) : (((s * t).apply 1 : ℤ) : ℚ) = s.apply 1 * t.apply 1 := by
  cases s <;> cases t <;> decide +kernel

theorem quotient_nearest (s t : Sign) {m n : Nat} {e f : ℤ} (hm : 0 < m) (hn : 0 < n)
    (hlim : |nearest ((s.apply m : ℚ) * 2^e / (t.apply n * 2^f))| < limit) :
    IsNearest (UnpackedFloat.div Format.binary64 (.finite s m e hm) (.finite t n f hn))
      (s.apply m * 2^e / (t.apply n * 2^f)) := by
  have hm' : (0 : ℚ) < m := by exact_mod_cast hm
  have hn' : (0 : ℚ) < n := by exact_mod_cast hn
  let target := min (e - f) (Format.binary64.targetExponent (totalExponent m e - totalExponent n f))
  let k := (e - f - target).toNat
  have hk : target = e - f - k := by omega
  have hvalue : (s.apply m : ℚ) * 2^e / (t.apply n * 2^f) =
      (s / t).apply 1 * (((m * 2^k : ℕ) : ℚ) / n * 2^target) := by
    rw [cast_apply s m, cast_apply t n, cast_apply_div, hk, zpow_sub₀ (by norm_num), zpow_sub₀ (by norm_num),
      zpow_natCast]
    push_cast
    field_simp
  have hround : UnpackedFloat.div Format.binary64 (.finite s m e hm) (.finite t n f hn) =
      roundWithAccuracy Format.binary64 (s / t) (m * 2^k / n) target (accuracyOfFraction (m * 2^k % n) n) := by
    rw [← Nat.shiftLeft_eq]
    rfl
  have hle : target ≤ Format.binary64.targetExponent (totalExponent (m * 2^k / n) target) := by
    have htotal := totalExponent_div_le hm hn k
    have htarget : target ≤ Format.binary64.targetExponent (totalExponent m e - totalExponent n f) :=
      min_le_right _ _
    simp only [targetExponent_def, totalExponent] at htarget ⊢
    omega
  rw [hvalue, hround]
  rw [hvalue, signed_nearest, abs_mul, abs_cast_apply, one_mul] at hlim
  have hpos : (0 : ℚ) < ((m * 2^k : ℕ) : ℚ) / n := by positivity
  exact roundWithAccuracy_nearest _ (describes_accuracyOfFraction _ hn) hpos hle
    ((le_abs_self _).trans_lt hlim)

/-- A quotient is the exact quotient, rounded. -/
theorem div_rounded {x y : Float} (hx : IsFinite x) (hy : IsFinite y) (hne : toRational y ≠ 0)
    (hlim : |toRational x / toRational y| < 2^(1023 : ℤ)) :
    IsRounded (x / y) (toRational x / toRational y) := by
  change IsRounded (.ofModel (.pack (UnpackedFloat.div Format.binary64 x.toModel.unpack y.toModel.unpack))) _
  apply IsNearest.pack
  unfold IsFinite at hx hy
  unfold toRational at hne hlim ⊢
  generalize x.toModel.unpack = u at *
  generalize y.toModel.unpack = v at *
  cases v with
  | infinity t => exact hy.elim
  | notANumber => exact hy.elim
  | zero t => exact absurd rfl hne
  | finite t n f hn =>
    cases u with
    | infinity s => exact hx.elim
    | notANumber => exact hx.elim
    | zero s =>
      rw [show unpackedRational (.zero s) / unpackedRational (.finite t n f hn) = 0 from zero_div _]
      exact zero_nearest _
    | finite s m e hm => exact quotient_nearest s t hm hn (abs_nearest_lt_limit hlim)

theorem product_nearest (s t : Sign) {m n : Nat} {e f : ℤ} (hm : 0 < m) (hn : 0 < n)
    (hle : 2^52 ≤ m * n ∨ e + f ≤ -1074) (hlim : |nearest ((s.apply m : ℚ) * 2^e * (t.apply n * 2^f))| < limit) :
    IsNearest (roundWithAccuracy Format.binary64 (s * t) (m * n) (e + f) .exact)
      (s.apply m * 2^e * (t.apply n * 2^f)) := by
  have hvalue : (s.apply m : ℚ) * 2^e * (t.apply n * 2^f) =
      (s * t).apply 1 * (((m * n : ℕ) : ℚ) * 2^(e + f)) := by
    rw [cast_apply s m, cast_apply t n, cast_apply_mul, zpow_add₀ (by norm_num)]
    push_cast
    ring
  have hmn : 0 < m * n := Nat.mul_pos hm hn
  have htarget : e + f ≤ Format.binary64.targetExponent (totalExponent (m * n) (e + f)) := by
    have hlog : 52 ≤ (m * n).log2 ∨ e + f ≤ -1074 := hle.imp_left (Nat.le_log2 hmn.ne').mpr
    rw [targetExponent_eq]
    omega
  rw [hvalue, signed_nearest, abs_mul, abs_cast_apply, one_mul] at hlim
  rw [hvalue]
  exact roundWithAccuracy_nearest _ (describes_exact _) (by exact_mod_cast hmn) htarget
    ((le_abs_self _).trans_lt hlim)

theorem regular_product {s t : Sign} {m n : Nat} {e f : ℤ} {hm : 0 < m} {hn : 0 < n}
    (hu : IsRegular (.finite s m e hm)) (hv : IsRegular (.finite t n f hn)) :
    2^52 ≤ m * n ∨ e + f ≤ -1074 := by
  rcases hu.2.2.2 with hm' | rfl
  · exact Or.inl (hm'.trans (Nat.le_mul_of_pos_right m hn))
  · rcases hv.2.2.2 with hn' | rfl
    · exact Or.inl (hn'.trans (Nat.le_mul_of_pos_left n hm))
    · exact Or.inr (by omega)

/-- A product is the exact product, rounded. -/
theorem mul_rounded {x y : Float} (hx : IsFinite x) (hy : IsFinite y)
    (hlim : |toRational x * toRational y| < 2^(1023 : ℤ)) :
    IsRounded (x * y) (toRational x * toRational y) := by
  change IsRounded (.ofModel (.pack (UnpackedFloat.mul Format.binary64 x.toModel.unpack y.toModel.unpack))) _
  apply IsNearest.pack
  have hrx := unpack_regular x.toModel
  have hry := unpack_regular y.toModel
  unfold IsFinite at hx hy
  unfold toRational at hlim ⊢
  generalize x.toModel.unpack = u at *
  generalize y.toModel.unpack = v at *
  cases u with
  | infinity s => exact hx.elim
  | notANumber => exact hx.elim
  | zero s =>
    rw [show unpackedRational (.zero s) * unpackedRational v = 0 from zero_mul _]
    cases v with
    | infinity t => exact hy.elim
    | notANumber => exact hy.elim
    | zero t => exact zero_nearest _
    | finite t n f hn => exact zero_nearest _
  | finite s m e hm =>
    cases v with
    | infinity t => exact hy.elim
    | notANumber => exact hy.elim
    | zero t =>
      rw [show unpackedRational (.finite s m e hm) * unpackedRational (.zero t) = 0 from mul_zero _]
      exact zero_nearest _
    | finite t n f hn => exact product_nearest s t hm hn (regular_product hrx hry) (abs_nearest_lt_limit hlim)

/-- Machine words are well within reach. -/
theorem natCast_lt_limit {n : ℕ} (hn : n < 2^65) : (n : ℚ) < 2^(1023 : ℤ) := by
  have h : (n : ℚ) < 2^(65 : ℤ) := by exact_mod_cast hn
  exact h.trans_le (zpow_le_zpow_right₀ (by norm_num) (by norm_num))

theorem toFloat_rounded (n : UInt64) : IsRounded n.toFloat n.toNat := by
  change IsRounded (.ofModel (.pack (UnpackedFloat.normalize Format.binary64 n.toNat 0 .positive))) _
  apply IsNearest.pack
  have hlim : |((n.toNat : ℤ) : ℚ) * 2^(0 : ℤ)| < 2^(1023 : ℤ) := by
    have hn : ((n.toNat : ℤ) : ℚ) < 2^(64 : ℤ) := by exact_mod_cast n.toNat_lt
    rw [zpow_zero, mul_one, abs_of_nonneg (by positivity)]
    exact hn.trans_le (zpow_le_zpow_right₀ (by norm_num) (by norm_num))
  have h := normalize_nearest n.toNat (e := 0) .positive hlim
  simpa using h

/-- The number of a machine word that is made of a natural number. -/
theorem natCast_rounded {n : ℕ} (hn : n < UInt64.size) : IsRounded n.toUInt64.toFloat n := by
  have h := toFloat_rounded n.toUInt64
  rwa [show n.toUInt64.toNat = n from UInt64.toNat_ofNat_of_lt hn] at h

theorem natCast_exact {n : ℕ} (hn : n < 2^53) : IsFinite n.toUInt64.toFloat ∧ toRational n.toUInt64.toFloat = n := by
  have h := natCast_rounded (hn.trans (by norm_num))
  exact ⟨h.finite, h.toRational_eq.trans (nearest_natCast hn)⟩

private theorem one_value : IsFinite Float.exactlyRepresentablePowersOfTen[0] ∧
    toRational Float.exactlyRepresentablePowersOfTen[0] = 1 := by
  have hu : (Float.exactlyRepresentablePowersOfTen[0]).toModel.unpack =
      .finite .positive (2^52) (-52) (by decide) := rfl
  unfold IsFinite toRational
  rw [hu]
  exact ⟨trivial, by norm_num [unpackedRational, Sign.apply]⟩

private theorem ofNat_small {n : ℕ} (hn : n < 2^53) :
    Float.ofNat n = n.toUInt64.toFloat * Float.exactlyRepresentablePowersOfTen[0] := by
  change Float.ofScientific n false 0 = _
  rw [Float.ofScientific, dif_pos ⟨hn, by norm_num⟩]
  rfl

/-- A natural number of more than 53 bits is rounded as a significand with 53 further places. -/
theorem ofNat_large {n : ℕ} (hn : ¬ n < 2^53) :
    Float.ofNat n = .ofModel (.pack (roundWithAccuracy Format.binary64 .positive (n <<< 53) (-53) .exact)) := by
  have hexp : (0 : ℤ) ≤ 2^Format.binary64.exponentBits := by decide
  have heq : UnpackedFloat.ofScientific Format.binary64 n 0 =
      roundWithAccuracy Format.binary64 (.positive * .positive) (n <<< 53 * 1) (-53 + 0) .exact := by
    rw [UnpackedFloat.ofScientific, dif_neg (by omega), if_neg (by decide), if_neg (by omega), if_pos le_rfl]
    rfl
  rw [Nat.mul_one] at heq
  change Float.ofScientific n false 0 = _
  rw [Float.ofScientific, dif_neg fun h => hn h.1]
  change Float.ofModel (.pack (UnpackedFloat.ofScientific Format.binary64 n 0)) = _
  rw [heq]
  rfl

theorem shifted_value (n : ℕ) : ((n <<< 53 : ℕ) : ℚ) * 2^(-53 : ℤ) = n := by
  rw [Nat.shiftLeft_eq]
  push_cast
  norm_num
  ring

theorem shifted_le_targetExponent {n : ℕ} (hn : ¬ n < 2^53) :
    (-53 : ℤ) ≤ Format.binary64.targetExponent (totalExponent (n <<< 53) (-53)) := by
  have hlog : 53 ≤ (n <<< 53).log2 := by
    rw [Nat.le_log2 (by rw [Nat.shiftLeft_eq]; omega), Nat.shiftLeft_eq]
    omega
  rw [targetExponent_eq]
  omega

/-- The number of a natural number is that natural number, rounded. -/
theorem ofNat_rounded {n : ℕ} (hn : (n : ℚ) < 2^(1023 : ℤ)) : IsRounded (Float.ofNat n) n := by
  by_cases hsmall : n < 2^53
  · obtain ⟨hfinite, hvalue⟩ := natCast_exact hsmall
    have hprod := mul_rounded hfinite one_value.1 (by rwa [hvalue, one_value.2, mul_one, Nat.abs_cast])
    rw [hvalue, one_value.2, mul_one] at hprod
    rwa [ofNat_small hsmall]
  · have hpos : (0 : ℚ) < (n <<< 53 : ℕ) := by
      rw [Nat.shiftLeft_eq]
      exact_mod_cast (show 0 < n * 2^53 by omega)
    have hlim : ((n <<< 53 : ℕ) : ℚ) * 2^(-53 : ℤ) < 2^(1023 : ℤ) := (shifted_value n).trans_lt hn
    have h := roundWithAccuracy_nearest .positive (describes_exact _) hpos (shifted_le_targetExponent hsmall)
      (nearest_lt_limit hlim)
    rw [shifted_value, Sign.apply, Int.cast_one, one_mul] at h
    rw [ofNat_large hsmall]
    exact h.pack

/-- A quotient of the numbers of two natural numbers, the second at least the first. -/
theorem quotient_rounded {x y : Float} {i u : ℕ} (hx : IsRounded x i) (hy : IsRounded y u) (hiu : i ≤ u) (hu : 0 < u) :
    IsRounded (x / y) (nearest i / nearest u) ∧ 0 ≤ nearest i / nearest u ∧ nearest i / nearest u ≤ 1 := by
  have hone : (1 : ℚ) ≤ nearest u := by
    rw [← nearest_one]
    exact nearest_mono (by exact_mod_cast hu)
  have h0 : 0 ≤ nearest (i : ℚ) / nearest u := div_nonneg (nearest_natCast_nonneg i) (by linarith)
  have h1 : nearest (i : ℚ) / nearest u ≤ 1 := div_le_one_of_le₀ (nearest_mono (by exact_mod_cast hiu)) (by linarith)
  have hq := div_rounded hx.finite hy.finite (by rw [hy.toRational_eq]; linarith) (by
    rw [hx.toRational_eq, hy.toRational_eq, abs_of_nonneg h0]
    exact h1.trans_lt (one_lt_zpow₀ (by norm_num) (by norm_num)))
  rw [hx.toRational_eq, hy.toRational_eq] at hq
  exact ⟨hq, h0, h1⟩

end CallOrder.Binary64
