import CallOrder.Proofs.Binary64.Arithmetic

/-! A number is what its parts make of it, so the rational that it stands for determines it, unless
that is zero. -/
namespace CallOrder.Binary64
open Float.Model Float.Model.UnpackedFloat

private theorem toBitVec_ofBitVec (b : BitVec 1) : (Sign.ofBitVec b).toBitVec = b := by
  rcases BitVec.eq_zero_or_eq_one b with rfl | rfl <;> rfl

/-- A word of 64 bits is put together from its sign, its exponent and its significand. -/
private theorem packComponents_self {b : BitVec Format.binary64.numBits} {e : BitVec 11} {m : BitVec 52}
    (he : unpackExponent b = e) (hm : unpackMantissa b = m) :
    packComponents Format.binary64 (Sign.ofBitVec (unpackSign b)) e m = b := by
  subst he hm
  rw [packComponents, toBitVec_ofBitVec]
  unfold unpackSign unpackExponent unpackMantissa
  ext i hi
  grind

theorem pack_finite (s : Sign) {m k : ℕ} {e : ℤ} (hm : 0 < m) (he : (e + 1075).toNat = k) (hk : k < 2047) :
    UnpackedFloat.pack Format.binary64 (.finite s m e hm) =
      if 2^52 ≤ m ∧ m < 2^53 then packComponents Format.binary64 s (BitVec.ofNat 11 k) (BitVec.ofNat 52 m)
      else packComponents Format.binary64 s 0#11 (BitVec.ofNat 52 m) := by
  have hbias : e + (Format.binary64.exponentBias : ℤ) + (52 : ℕ) = e + 1075 := by
    have : (Format.binary64.exponentBias : ℤ) = 1023 := by decide
    omega
  have hbits : m.log2 + 1 = Format.binary64.mantissaBits ↔ 2^52 ≤ m ∧ m < 2^53 := by
    rw [← Nat.log2_eq_iff hm.ne']
    exact Nat.succ_inj
  unfold UnpackedFloat.pack
  simp only [hbias, he, hbits]
  rw [if_neg (by omega)]

private theorem pack_unpack_word {b : BitVec Format.binary64.numBits} (hv : Format.binary64.Valid b) :
    UnpackedFloat.pack Format.binary64 (UnpackedFloat.unpack Format.binary64 b) = b := by
  have hm : (@unpackMantissa Format.binary64 b).toNat < 2^52 := BitVec.isLt _
  have he : (@unpackExponent Format.binary64 b).toNat < 2^11 := BitVec.isLt _
  have hbias : (Format.binary64.exponentBias : ℤ) + (52 : ℕ) = 1075 := by decide
  unfold UnpackedFloat.unpack
  dsimp only
  rw [hbias]
  split
  · rename_i hinf
    split
    · rename_i hzero
      exact packComponents_self hinf hzero
    · rename_i hnan
      exact (hv.eq_packedNaN hinf hnan).symm
  · rename_i hinf
    have hhi : (@unpackExponent Format.binary64 b).toNat ≠ 2047 := fun h => hinf (BitVec.eq_of_toNat_eq h)
    split
    · rename_i hsub
      split
      · rename_i hzero
        exact packComponents_self hsub hzero
      · rw [pack_finite _ _ (k := 1) (by rw [hsub]; decide) (by omega), if_neg (by omega)]
        exact packComponents_self hsub (by simp)
    · rename_i hsub
      have hone : (1#1 ++ @unpackMantissa Format.binary64 b).toNat = 2^52 + (@unpackMantissa Format.binary64 b).toNat :=
        toNat_one_append _
      rw [pack_finite _ _ (k := (@unpackExponent Format.binary64 b).toNat) (by omega) (by omega), if_pos (by omega)]
      refine packComponents_self (by simp) (BitVec.eq_of_toNat_eq ?_)
      rw [hone, BitVec.toNat_ofNat, show 2^Format.binary64.mantissaBitsWithoutImplicit = 2^52 from rfl]
      omega

theorem pack_unpack (x : Float.Model) : Float.Model.pack x.unpack = x := by
  obtain ⟨bits, hv⟩ := x
  have h := pack_unpack_word hv
  simp only [Float.Model.pack, Float.Model.unpack, h]

theorem eq_of_unpack_eq {x y : Float} (h : x.toModel.unpack = y.toModel.unpack) : x = y := by
  have hm : x.toModel = y.toModel := by rw [← pack_unpack x.toModel, h, pack_unpack]
  exact congrArg Float.ofModel hm

private theorem eq_of_rational_eq {u v : UnpackedFloat} (hu : IsRegular u) (hv : IsRegular v)
    (hpu : IsProper u) (hpv : IsProper v) (h : unpackedRational u = unpackedRational v)
    (h0 : unpackedRational u ≠ 0) : u = v := by
  have hne : ∀ w, IsProper w → w ≠ .notANumber := by
    rintro _ hw rfl
    exact hw
  have hcompare := compare_eq hu hv (hne u hpu) (hne v hpv)
  rw [compare_eq_iff_eq.mpr h] at hcompare
  cases u with
  | infinity s => exact hpu.elim
  | notANumber => exact hpu.elim
  | zero s => exact absurd rfl h0
  | finite s m e hm =>
    cases v with
    | infinity t => exact hpv.elim
    | notANumber => exact hpv.elim
    | zero t => exact absurd h h0
    | finite t n f hn =>
      cases s <;> cases t <;> simp [UnpackedFloat.compare, Ordering.then_eq_eq, Ordering.swap_eq_eq] at hcompare ⊢
      all_goals exact ⟨hcompare.2, hcompare.1⟩

/-- Finite numbers that stand for the same rational, other than zero, are the same. -/
theorem eq_of_toRational_eq {x y : Float} (hx : IsFinite x) (hy : IsFinite y) (h : toRational x = toRational y)
    (h0 : toRational x ≠ 0) : x = y :=
  eq_of_unpack_eq (eq_of_rational_eq (unpack_regular _) (unpack_regular _) hx hy h h0)

/-- A number that stands for an integer. -/
structure IsWhole (x : Float) (k : ℤ) : Prop where
  finite : IsFinite x
  toRational_eq : toRational x = k

private theorem nearest_intCast {k : ℤ} (hk : |k| < 2^53) : nearest k = k := by
  have h := nearest_eq_self (e := 0) hk (by norm_num)
  rwa [zpow_zero, mul_one] at h

private theorem abs_intCast_lt_limit {k : ℤ} (hk : |k| < 2^53) : |(k : ℚ)| < 2^(1023 : ℤ) := by
  rw [Int.abs_eq_natAbs] at hk
  rw [← Int.cast_abs, Int.abs_eq_natAbs, Int.cast_natCast]
  exact natCast_lt_limit (by omega)

theorem IsRounded.isWhole {x : Float} {k : ℤ} (h : IsRounded x k) (hk : |k| < 2^53) : IsWhole x k :=
  ⟨h.finite, by rw [h.toRational_eq, nearest_intCast hk]⟩

theorem ofNat_isWhole {n : ℕ} (hn : n < 2^53) : IsWhole (Float.ofNat n) n := by
  have h : IsRounded (Float.ofNat n) (n : ℤ) := ofNat_rounded (natCast_lt_limit (by omega))
  exact h.isWhole (by rw [Nat.abs_cast]; exact_mod_cast hn)

theorem isWhole_zero : IsWhole 0 0 := by exact_mod_cast ofNat_isWhole (n := 0) (by norm_num)

theorem isWhole_one : IsWhole 1 1 := by exact_mod_cast ofNat_isWhole (n := 1) (by norm_num)

theorem isWhole_two : IsWhole 2 2 := by exact_mod_cast ofNat_isWhole (n := 2) (by norm_num)

namespace IsWhole
variable {x y : Float} {j k : ℤ}

theorem add (hx : IsWhole x j) (hy : IsWhole y k) (h : |j + k| < 2^53) : IsWhole (x + y) (j + k) := by
  have hsum : toRational x + toRational y = ((j + k : ℤ) : ℚ) := by
    rw [hx.toRational_eq, hy.toRational_eq, Int.cast_add]
  have hr := add_rounded hx.finite hy.finite (by rw [hsum]; exact abs_intCast_lt_limit h)
  rw [hsum] at hr
  exact hr.isWhole h

theorem sub (hx : IsWhole x j) (hy : IsWhole y k) (h : |j - k| < 2^53) : IsWhole (x - y) (j - k) := by
  have hdiff : toRational x - toRational y = ((j - k : ℤ) : ℚ) := by
    rw [hx.toRational_eq, hy.toRational_eq, Int.cast_sub]
  have hr := sub_rounded hx.finite hy.finite (by rw [hdiff]; exact abs_intCast_lt_limit h)
  rw [hdiff] at hr
  exact hr.isWhole h

/-- An integer other than zero has one number. -/
theorem eq (hx : IsWhole x k) (hy : IsWhole y k) (hk : k ≠ 0) : x = y := by
  refine eq_of_toRational_eq hx.finite hy.finite (by rw [hx.toRational_eq, hy.toRational_eq]) ?_
  rw [hx.toRational_eq]
  exact_mod_cast hk

end IsWhole

end CallOrder.Binary64
