import Mathlib

/-! The rational number that a binary64 number stands for. Comparisons of numbers are comparisons of
these rationals; an infinity stands where the next power of two would. -/
namespace CallOrder.Binary64
open Float.Model Float.Model.UnpackedFloat

/-- The numbers that 64 bits hold: a significand has 53 bits, or fewer at the least exponent. -/
def IsRegular : UnpackedFloat → Prop
  | .finite _ m e _ => m < 2^53 ∧ -1074 ≤ e ∧ e ≤ 971 ∧ (2^52 ≤ m ∨ e = -1074)
  | _ => True

/-- Where an infinity stands: the power of two after the greatest number. -/
def limit : ℚ := 2^(1024 : ℤ)

/-- The rational place of an unpacked number. That of NaN is arbitrary. -/
def unpackedRational : UnpackedFloat → ℚ
  | .notANumber => 0
  | .infinity s => s.apply 1 * limit
  | .zero _ => 0
  | .finite s m e _ => s.apply m * 2^e

/-- The rational number that a number stands for, exactly. -/
def toRational (x : Float) : ℚ := unpackedRational x.toModel.unpack

/-- Neither NaN nor infinite. -/
def IsProper : UnpackedFloat → Prop
  | .zero _ | .finite .. => True
  | _ => False

theorem toNat_one_append (b : BitVec 52) : (1#1 ++ b).toNat = 2^52 + b.toNat := by
  rw [BitVec.toNat_append, ← Nat.shiftLeft_add_eq_or_of_lt b.isLt]
  rfl

theorem unpack_regular (x : Float.Model) : IsRegular x.unpack := by
  have hm : (@unpackMantissa Format.binary64 x.toBits.toBitVec).toNat < 2^52 := BitVec.isLt _
  have he : (@unpackExponent Format.binary64 x.toBits.toBitVec).toNat < 2^11 := BitVec.isLt _
  have hbias : (Format.binary64.exponentBias : Int) + (52 : Nat) = 1075 := by decide
  unfold Float.Model.unpack UnpackedFloat.unpack
  dsimp only
  split
  · split <;> trivial
  · rename_i hinf
    split
    · rename_i hzero
      split
      · trivial
      · refine ⟨by omega, ?_, ?_, Or.inr ?_⟩ <;> rw [hzero, hbias] <;> decide
    · rename_i hzero
      have hlo : (@unpackExponent Format.binary64 x.toBits.toBitVec).toNat ≠ 0 :=
        fun h => hzero (BitVec.eq_of_toNat_eq h)
      have hhi : (@unpackExponent Format.binary64 x.toBits.toBitVec).toNat ≠ 2047 :=
        fun h => hinf (BitVec.eq_of_toNat_eq h)
      have hbits := toNat_one_append (@unpackMantissa Format.binary64 x.toBits.toBitVec)
      rw [hbias]
      exact ⟨by omega, by omega, by omega, Or.inl (by omega)⟩

private theorem two_zpow_pos (e : ℤ) : (0 : ℚ) < 2^e := zpow_pos (by norm_num) e

private theorem two_zpow_le {a b : ℤ} (h : a ≤ b) : (2 : ℚ)^a ≤ 2^b :=
  zpow_le_zpow_right₀ (by norm_num) h

theorem magnitude_lt {m : Nat} {e t : ℤ} (hm : m < 2^53) (h : e + 53 ≤ t) : (m : ℚ) * 2^e < 2^t := by
  have hm' : (m : ℚ) < 2^(53 : ℤ) := by exact_mod_cast hm
  calc
    (m : ℚ) * 2^e < 2^(53 : ℤ) * 2^e := mul_lt_mul_of_pos_right hm' (two_zpow_pos e)
    _ = 2^(53 + e) := (zpow_add₀ (by norm_num) _ _).symm
    _ ≤ 2^t := two_zpow_le (by omega)

theorem le_magnitude {m : Nat} {e : ℤ} (hm : 2^52 ≤ m) : (2 : ℚ)^(e + 52) ≤ m * 2^e := by
  have hm' : (2 : ℚ)^(52 : ℤ) ≤ m := by exact_mod_cast hm
  rw [add_comm, zpow_add₀ (by norm_num)]
  exact mul_le_mul_of_nonneg_right hm' (two_zpow_pos e).le

private theorem magnitude_lt_of_exponent_lt {s t : Sign} {m n : Nat} {e f : ℤ} {hm : 0 < m} {hn : 0 < n}
    (hu : IsRegular (.finite s m e hm)) (hv : IsRegular (.finite t n f hn)) (h : e < f) :
    (m : ℚ) * 2^e < n * 2^f := by
  have hn' : 2^52 ≤ n := hv.2.2.2.resolve_right fun hf => by have := hu.2.1; omega
  exact (magnitude_lt hu.1 (by omega)).trans_le (le_magnitude hn')

private theorem compare_magnitude {s t : Sign} {m n : Nat} {e f : ℤ} {hm : 0 < m} {hn : 0 < n}
    (hu : IsRegular (.finite s m e hm)) (hv : IsRegular (.finite t n f hn)) :
    (compare e f).then (compare m n) = compare ((m : ℚ) * 2^e) (n * 2^f) := by
  rcases lt_trichotomy e f with h | rfl | h
  · rw [compare_lt_iff_lt.mpr h, compare_lt_iff_lt.mpr (magnitude_lt_of_exponent_lt hu hv h)]
    rfl
  · rw [compare_eq_iff_eq.mpr rfl]
    have hp := two_zpow_pos e
    rcases lt_trichotomy m n with h | rfl | h
    · have h' : (m : ℚ) < n := by exact_mod_cast h
      rw [compare_lt_iff_lt.mpr h, compare_lt_iff_lt.mpr (mul_lt_mul_of_pos_right h' hp)]
      rfl
    · rw [compare_eq_iff_eq.mpr rfl, compare_eq_iff_eq.mpr rfl]
      rfl
    · have h' : (n : ℚ) < m := by exact_mod_cast h
      rw [compare_gt_iff_gt.mpr h, compare_gt_iff_gt.mpr (mul_lt_mul_of_pos_right h' hp)]
      rfl
  · rw [compare_gt_iff_gt.mpr h, compare_gt_iff_gt.mpr (magnitude_lt_of_exponent_lt hv hu h)]
    rfl

private theorem magnitude_pos {m : Nat} (hm : 0 < m) (e : ℤ) : (0 : ℚ) < m * 2^e :=
  mul_pos (by exact_mod_cast hm) (two_zpow_pos e)

private theorem compare_neg (a b : ℚ) : compare (-a) (-b) = (compare a b).swap := by
  rcases lt_trichotomy a b with h | rfl | h
  · rw [compare_lt_iff_lt.mpr h, compare_gt_iff_gt.mpr (neg_lt_neg h)]
    rfl
  · rw [compare_eq_iff_eq.mpr rfl, compare_eq_iff_eq.mpr rfl]
    rfl
  · rw [compare_gt_iff_gt.mpr h, compare_lt_iff_lt.mpr (neg_lt_neg h)]
    rfl

private theorem limit_pos : 0 < limit := two_zpow_pos 1024

/-- Every proper number lies between the two infinities. -/
theorem rational_between {u : UnpackedFloat} (hu : IsRegular u) (hp : IsProper u) :
    -limit < unpackedRational u ∧ unpackedRational u < limit := by
  have htop := limit_pos
  cases u with
  | infinity s => exact hp.elim
  | notANumber => exact hp.elim
  | zero s => exact ⟨neg_lt_zero.mpr htop, htop⟩
  | finite s m e hm =>
    have hpos := magnitude_pos hm e
    have hlt : (m : ℚ) * 2^e < limit := magnitude_lt hu.1 (by have := hu.2.2.1; omega)
    cases s with
    | positive =>
      simp only [unpackedRational, Sign.apply, Int.cast_natCast]
      exact ⟨by linarith, hlt⟩
    | negative =>
      simp only [unpackedRational, Sign.apply, Int.cast_neg, Int.cast_natCast, neg_mul]
      exact ⟨by linarith, by linarith⟩

private theorem compare_infinity_left {v : UnpackedFloat} (hv : IsRegular v) (hp : IsProper v) (s : Sign) :
    (UnpackedFloat.infinity s).compare v =
      some (compare (unpackedRational (.infinity s)) (unpackedRational v)) := by
  have hb := rational_between hv hp
  cases s with
  | positive =>
    rw [compare_gt_iff_gt.mpr (by simpa [unpackedRational, Sign.apply] using hb.2)]
    cases v <;> first | rfl | exact hp.elim
  | negative =>
    rw [compare_lt_iff_lt.mpr (by simpa [unpackedRational, Sign.apply] using hb.1)]
    cases v <;> first | rfl | exact hp.elim

private theorem compare_infinity_right {u : UnpackedFloat} (hu : IsRegular u) (hp : IsProper u) (s : Sign) :
    u.compare (.infinity s) =
      some (compare (unpackedRational u) (unpackedRational (.infinity s))) := by
  have hb := rational_between hu hp
  cases s with
  | positive =>
    rw [compare_lt_iff_lt.mpr (by simpa [unpackedRational, Sign.apply] using hb.2)]
    cases u <;> first | rfl | exact hp.elim
  | negative =>
    rw [compare_gt_iff_gt.mpr (by simpa [unpackedRational, Sign.apply] using hb.1)]
    cases u <;> first | rfl | exact hp.elim

private theorem compare_infinities (s t : Sign) : (UnpackedFloat.infinity s).compare (.infinity t) =
    some (compare (unpackedRational (.infinity s)) (unpackedRational (.infinity t))) := by
  have htop := limit_pos
  cases s <;> cases t <;> refine congrArg some (Eq.symm ?_) <;> simp only [unpackedRational, Sign.apply]
  · exact compare_eq_iff_eq.mpr rfl
  · exact compare_lt_iff_lt.mpr (by push_cast; linarith)
  · exact compare_gt_iff_gt.mpr (by push_cast; linarith)
  · exact compare_eq_iff_eq.mpr rfl

private theorem compare_proper {u v : UnpackedFloat} (hu : IsRegular u) (hv : IsRegular v)
    (hpu : IsProper u) (hpv : IsProper v) :
    u.compare v = some (compare (unpackedRational u) (unpackedRational v)) := by
  cases u with
  | infinity s => exact hpu.elim
  | notANumber => exact hpu.elim
  | zero s =>
    cases v with
    | infinity t => exact hpv.elim
    | notANumber => exact hpv.elim
    | zero t => exact congrArg some (compare_eq_iff_eq.mpr rfl).symm
    | finite t n f hn =>
      have hpos := magnitude_pos hn f
      cases t <;> refine congrArg some (Eq.symm ?_) <;> simp only [unpackedRational, Sign.apply]
      · exact compare_gt_iff_gt.mpr (by push_cast; linarith)
      · exact compare_lt_iff_lt.mpr (by exact_mod_cast hpos)
  | finite s m e hm =>
    have hpos := magnitude_pos hm e
    cases v with
    | infinity t => exact hpv.elim
    | notANumber => exact hpv.elim
    | zero t =>
      cases s <;> refine congrArg some (Eq.symm ?_) <;> simp only [unpackedRational, Sign.apply]
      · exact compare_lt_iff_lt.mpr (by push_cast; linarith)
      · exact compare_gt_iff_gt.mpr (by exact_mod_cast hpos)
    | finite t n f hn =>
      have hpos' := magnitude_pos hn f
      cases s <;> cases t <;> refine congrArg some (Eq.symm ?_) <;>
        simp only [unpackedRational, Sign.apply, Int.cast_neg, Int.cast_natCast, neg_mul]
      · rw [compare_neg, compare_magnitude hu hv]
      · exact compare_lt_iff_lt.mpr (by linarith)
      · exact compare_gt_iff_gt.mpr (by linarith)
      · exact (compare_magnitude hu hv).symm

/-- Numbers that are not NaN compare as their rationals do. -/
theorem compare_eq {u v : UnpackedFloat} (hu : IsRegular u) (hv : IsRegular v)
    (hun : u ≠ .notANumber) (hvn : v ≠ .notANumber) :
    u.compare v = some (compare (unpackedRational u) (unpackedRational v)) := by
  cases u with
  | notANumber => exact absurd rfl hun
  | infinity s =>
    cases v with
    | notANumber => exact absurd rfl hvn
    | infinity t => exact compare_infinities s t
    | zero t => exact compare_infinity_left hv trivial s
    | finite t n f hn => exact compare_infinity_left hv trivial s
  | zero s =>
    cases v with
    | notANumber => exact absurd rfl hvn
    | infinity t => exact compare_infinity_right hu trivial t
    | zero t => exact compare_proper hu hv trivial trivial
    | finite t n f hn => exact compare_proper hu hv trivial trivial
  | finite s m e hm =>
    cases v with
    | notANumber => exact absurd rfl hvn
    | infinity t => exact compare_infinity_right hu trivial t
    | zero t => exact compare_proper hu hv trivial trivial
    | finite t n f hn => exact compare_proper hu hv trivial trivial

private theorem ne_notANumber_iff (x : Float) : x.toModel.unpack ≠ .notANumber ↔ x.isNaN = false := by
  change _ ↔ x.toModel.unpack.isNaN = false
  rw [← Bool.not_eq_true, UnpackedFloat.isNaN_iff]

private theorem compare_nan_left (v : UnpackedFloat) : UnpackedFloat.notANumber.compare v = none := by
  cases v <;> rfl

private theorem compare_nan_right (u : UnpackedFloat) : u.compare .notANumber = none := by
  cases u with
  | infinity s => cases s <;> rfl
  | notANumber => rfl
  | zero s => rfl
  | finite s m e hm => cases s <;> rfl

private theorem compare_isSome_iff {x y : Float} {p : Ordering → Prop} :
    (∃ o, x.toModel.unpack.compare y.toModel.unpack = some o ∧ p o) ↔
      x.isNaN = false ∧ y.isNaN = false ∧ p (compare (toRational x) (toRational y)) := by
  by_cases hx : x.toModel.unpack = .notANumber
  · have hx' : x.isNaN ≠ false := fun h => (ne_notANumber_iff x).mpr h hx
    simp only [hx, hx', compare_nan_left, reduceCtorEq, false_and, exists_false]
  by_cases hy : y.toModel.unpack = .notANumber
  · have hy' : y.isNaN ≠ false := fun h => (ne_notANumber_iff y).mpr h hy
    simp only [hy, hy', compare_nan_right, reduceCtorEq, false_and, and_false, exists_false]
  rw [compare_eq (unpack_regular _) (unpack_regular _) hx hy]
  simp only [(ne_notANumber_iff x).mp hx, (ne_notANumber_iff y).mp hy, toRational, true_and, Option.some.injEq,
    exists_eq_left']

theorem lt_iff {x y : Float} :
    x < y ↔ x.isNaN = false ∧ y.isNaN = false ∧ toRational x < toRational y := by
  rw [← compare_lt_iff_lt, ← compare_isSome_iff (p := (· = .lt))]
  change decide ((x.toModel.unpack.compare y.toModel.unpack == some .lt) = true) = true ↔ _
  simp

theorem le_iff {x y : Float} :
    x ≤ y ↔ x.isNaN = false ∧ y.isNaN = false ∧ toRational x ≤ toRational y := by
  rw [← compare_le_iff_le, ← compare_isSome_iff (p := (· ≠ .gt))]
  change decide ((x.toModel.unpack.compare y.toModel.unpack).any (·.isLE) = true) = true ↔ _
  cases x.toModel.unpack.compare y.toModel.unpack with
  | none => simp
  | some o => cases o <;> simp

theorem beq_iff {x y : Float} :
    (x == y) = true ↔ x.isNaN = false ∧ y.isNaN = false ∧ toRational x = toRational y := by
  rw [← compare_eq_iff_eq (a := toRational x), ← compare_isSome_iff (p := (· = .eq))]
  change (x.toModel.unpack.compare y.toModel.unpack == some .eq) = true ↔ _
  simp

theorem unpack_packComponents (s : Sign) {ex : BitVec 11} (man : BitVec 52) (h : ex ≠ -1#11) :
    UnpackedFloat.unpack Format.binary64 (packComponents Format.binary64 s ex man) =
      if ex = 0#11 then
        if hz : man = 0#52 then .zero s
        else .finite s man.toNat (-1074) (by simpa [BitVec.toNat_pos, BitVec.pos_iff_ne_zero] using hz)
      else .finite s (1#1 ++ man).toNat (ex.toNat - 1075) (by rw [toNat_one_append]; omega) := by
  unfold UnpackedFloat.unpack
  simp only [unpackExponent_packComponents, unpackMantissa_packComponents, unpackSign_packComponents,
    Sign.ofBitVec_toBitVec, if_neg h]
  split
  · subst ex
    rfl
  · rfl

private theorem toNat_ofNat_biased {e : ℤ} (he : -1074 ≤ e) (he' : e ≤ 971) :
    (BitVec.ofNat 11 (e + 1075).toNat).toNat = (e + 1075).toNat := by
  rw [BitVec.toNat_ofNat, Nat.mod_eq_of_lt]
  omega

private theorem unpack_pack_normal (s : Sign) {m : Nat} {e : ℤ} (hm : 0 < m) (hlo : 2^52 ≤ m)
    (hhi : m < 2^53) (he : -1074 ≤ e) (he' : e ≤ 971) :
    UnpackedFloat.unpack Format.binary64 (UnpackedFloat.pack Format.binary64 (.finite s m e hm)) =
      .finite s m e hm := by
  have hlog : m.log2 = 52 := (Nat.log2_eq_iff (by omega)).mpr ⟨hlo, hhi⟩
  have hbias : e + (Format.binary64.exponentBias : Int) + (52 : Nat) = e + 1075 := by
    have : (Format.binary64.exponentBias : Int) = 1023 := by decide
    omega
  have hexp := toNat_ofNat_biased he he'
  have hman : (BitVec.ofNat 52 m).toNat = m - 2^52 := by
    rw [BitVec.toNat_ofNat]
    omega
  unfold UnpackedFloat.pack
  simp only [hbias]
  rw [if_neg (by omega), if_pos (by rw [hlog]; rfl), unpack_packComponents, if_neg]
  · simp only [UnpackedFloat.finite.injEq, true_and, toNat_one_append, hexp, hman]
    omega
  · intro h
    rw [h] at hexp
    change 0 = _ at hexp
    omega
  · intro h
    rw [h] at hexp
    change 2047 = _ at hexp
    omega

private theorem unpack_pack_subnormal (s : Sign) {m : Nat} (hm : 0 < m) (hhi : m < 2^52) :
    UnpackedFloat.unpack Format.binary64 (UnpackedFloat.pack Format.binary64 (.finite s m (-1074) hm)) =
      .finite s m (-1074) hm := by
  have hlog : m.log2 < 52 := (Nat.log2_lt (by omega)).mpr hhi
  have hman : (BitVec.ofNat 52 m).toNat = m := by
    rw [BitVec.toNat_ofNat, Nat.mod_eq_of_lt hhi]
  unfold UnpackedFloat.pack
  simp only
  rw [if_neg (by decide), if_neg (by change ¬ m.log2 + 1 = 53; omega),
    unpack_packComponents _ _ (by decide), if_pos rfl, dif_neg]
  · simp only [hman]
  · intro h
    rw [h] at hman
    change 0 = m at hman
    omega

/-- A number within reach is packed and unpacked without loss. -/
theorem unpack_pack {u : UnpackedFloat} (hu : IsRegular u) : (Float.Model.pack u).unpack = u := by
  cases u with
  | notANumber => rfl
  | infinity s => cases s <;> rfl
  | zero s => cases s <;> rfl
  | finite s m e hm =>
    obtain ⟨hhi, he, he', hcase⟩ := hu
    by_cases hlo : 2^52 ≤ m
    · exact unpack_pack_normal s hm hlo hhi he he'
    · obtain rfl := hcase.resolve_left hlo
      exact unpack_pack_subnormal s hm (by omega)

end CallOrder.Binary64
