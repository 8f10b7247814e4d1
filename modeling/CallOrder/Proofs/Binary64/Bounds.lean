import CallOrder.Proofs.Binary64.Canonical

/-! Numbers within bounds. A natural number that is out of reach becomes the infinity, so a quotient of a
natural number and one that is no less lies between 0 and 1, unless it is NaN; and NaN makes every sum and
difference NaN. -/
namespace CallOrder.Binary64
open Float.Model Float.Model.UnpackedFloat

theorem unpack_pack_beyond (s : Sign) {m : ℕ} {e : ℤ} (hm : 0 < m) (he : 971 < e) :
    (Float.Model.pack (.finite s m e hm)).unpack = .infinity s := by
  have hbias : e + (Format.binary64.exponentBias : ℤ) + (52 : ℕ) = e + 1075 := by
    have : (Format.binary64.exponentBias : ℤ) = 1023 := by decide
    omega
  have hpack : UnpackedFloat.pack Format.binary64 (.finite s m e hm) = packedInfinity Format.binary64 s := by
    unfold UnpackedFloat.pack
    simp only [hbias]
    rw [if_pos (by omega)]
  simp only [Float.Model.pack, Float.Model.unpack, hpack]
  cases s <;> rfl

/-- Rounded parts are packed as they are, or as an infinity if they are out of reach. -/
theorem IsCanonical.unpack_pack {m : ℕ} {e : ℤ} (h : IsCanonical m e) (s : Sign) :
    (Float.Model.pack (ofParts s m e)).unpack = ofParts s m e ∧ IsProper (ofParts s m e) ∨
      (Float.Model.pack (ofParts s m e)).unpack = .infinity s ∧ limit ≤ m * 2^e := by
  by_cases he : e ≤ 971
  · obtain ⟨hregular, hproper⟩ := h.regular s he
    exact .inl ⟨Binary64.unpack_pack hregular, hproper⟩
  · have hfull : 2^52 ≤ m := h.full.resolve_right (by omega)
    have hparts : ofParts s m e = .finite s m e (by omega) := dif_neg (by omega)
    refine .inr ⟨?_, ?_⟩
    · rw [hparts]
      exact unpack_pack_beyond s _ (by omega)
    · exact (zpow_le_zpow_right₀ (by norm_num) (by omega)).trans (le_magnitude hfull)

/-- A natural number is rounded, or becomes the infinity. -/
theorem ofNat_rounded_or_infinite (n : ℕ) :
    IsRounded (Float.ofNat n) n ∨ (Float.ofNat n).toModel.unpack = .infinity .positive ∧ limit ≤ nearest n := by
  by_cases hsmall : n < 2^53
  · have hwhole := ofNat_isWhole hsmall
    refine .inl ⟨hwhole.finite, ?_⟩
    rw [hwhole.toRational_eq, nearest_natCast hsmall, Int.cast_natCast]
  · have hpos : (0 : ℚ) < (n <<< 53 : ℕ) := by
      rw [Nat.shiftLeft_eq]
      exact_mod_cast (show 0 < n * 2^53 by omega)
    obtain ⟨r, t, hparts, hcanonical, hvalue⟩ :=
      roundWithAccuracy_canonical .positive (describes_exact _) hpos (shifted_le_targetExponent hsmall)
    rw [shifted_value] at hvalue
    rw [ofNat_large hsmall, hparts]
    rcases hcanonical.unpack_pack .positive with ⟨hunpack, hproper⟩ | ⟨hunpack, hlimit⟩
    · refine .inl ⟨?_, ?_⟩
      · change IsProper (Float.Model.pack _).unpack
        rwa [hunpack]
      · change unpackedRational (Float.Model.pack _).unpack = _
        rw [hunpack, unpackedRational_ofParts, hvalue, Sign.apply, Int.cast_one, one_mul]
    · exact .inr ⟨hunpack, hvalue ▸ hlimit⟩

private theorem exists_positive {u : UnpackedFloat} (hu : IsProper u) (hpos : 0 < unpackedRational u) :
    ∃ m e hm, u = .finite .positive m e hm := by
  cases u with
  | infinity s => exact hu.elim
  | notANumber => exact hu.elim
  | zero s => exact absurd hpos (lt_irrefl 0)
  | finite s m e hm =>
    cases s with
    | positive => exact ⟨m, e, hm, rfl⟩
    | negative =>
      have hle : unpackedRational (.finite .negative m e hm) ≤ 0 := by
        simp only [unpackedRational, Sign.apply, Int.cast_neg, Int.cast_natCast, neg_mul, Left.neg_nonpos_iff]
        positivity
      exact absurd hpos hle.not_gt

/-- A product of positive numbers is rounded, or becomes the infinity. -/
theorem mul_rounded_or_infinite {x y : Float} (hx : IsFinite x) (hy : IsFinite y) (hx0 : 0 < toRational x)
    (hy0 : 0 < toRational y) :
    IsRounded (x * y) (toRational x * toRational y) ∨ (x * y).toModel.unpack = .infinity .positive := by
  have hmul : (x * y).toModel =
      .pack (UnpackedFloat.mul Format.binary64 x.toModel.unpack y.toModel.unpack) := rfl
  have hrx := unpack_regular x.toModel
  have hry := unpack_regular y.toModel
  obtain ⟨m, e, hm, hu⟩ := exists_positive hx hx0
  obtain ⟨n, f, hn, hv⟩ := exists_positive hy hy0
  have hvalue : toRational x * toRational y = ((m * n : ℕ) : ℚ) * 2^(e + f) := by
    rw [toRational, toRational, hu, hv, zpow_add₀ (by norm_num)]
    simp only [unpackedRational, Sign.apply, Int.cast_natCast, Nat.cast_mul]
    ring
  have hmn : 0 < m * n := Nat.mul_pos hm hn
  have htarget : e + f ≤ Format.binary64.targetExponent (totalExponent (m * n) (e + f)) := by
    rw [hu] at hrx
    rw [hv] at hry
    have hlog : 52 ≤ (m * n).log2 ∨ e + f ≤ -1074 := (regular_product hrx hry).imp_left (Nat.le_log2 hmn.ne').mpr
    rw [targetExponent_eq]
    omega
  obtain ⟨r, t, hparts, hcanonical, hnearest⟩ := roundWithAccuracy_canonical .positive (describes_exact (m * n))
    (by exact_mod_cast hmn) htarget
  have hunpacked : (x * y).toModel.unpack = (Float.Model.pack (ofParts .positive r t)).unpack := by
    rw [hmul, hu, hv, ← hparts]
    rfl
  rcases hcanonical.unpack_pack .positive with ⟨hunpack, hproper⟩ | ⟨hunpack, -⟩
  · refine .inl ⟨?_, ?_⟩
    · rwa [IsFinite, hunpacked, hunpack]
    · rw [hvalue, ← hnearest, toRational, hunpacked, hunpack, unpackedRational_ofParts, Sign.apply, Int.cast_one, one_mul]
  · exact .inr (hunpacked.trans hunpack)

/-- Finite, and between 0 and a bound. -/
structure IsWithin (x : Float) (bound : ℚ) : Prop where
  finite : IsFinite x
  nonneg : 0 ≤ toRational x
  le : toRational x ≤ bound

/-- A number that is rounded from one up to a bound is within the bound, if that fits. -/
theorem IsRounded.isWithin_of {x : Float} {q bound : ℚ} (h : IsRounded x q) (h0 : 0 ≤ q) (hq : q ≤ bound)
    (hbound : nearest bound = bound) : IsWithin x bound := by
  refine ⟨h.finite, ?_, ?_⟩
  · rw [h.toRational_eq, ← nearest_zero]
    exact nearest_mono h0
  · rw [h.toRational_eq, ← hbound]
    exact nearest_mono hq

theorem IsRounded.isWithin {x : Float} {q : ℚ} {n : ℕ} (h : IsRounded x q) (h0 : 0 ≤ q) (hq : q ≤ n) (hn : n < 2^53) :
    IsWithin x n := h.isWithin_of h0 hq (nearest_natCast hn)

theorem isFinite_of_lt_limit {x : Float} (hnan : x.isNaN = false) (hlow : -limit < toRational x)
    (hhigh : toRational x < limit) : IsFinite x := by
  change x.toModel.unpack.isNaN = false at hnan
  unfold IsFinite
  unfold toRational at hlow hhigh
  generalize x.toModel.unpack = u at *
  cases u with
  | notANumber => cases hnan
  | infinity s => cases s <;> simp [unpackedRational, Sign.apply] at hlow hhigh
  | zero s => trivial
  | finite s m e hm => trivial

private theorem lt_limit {x : Float} (hx : IsFinite x) : toRational x < limit :=
  (rational_between (unpack_regular x.toModel) hx).2

private theorem div_infinity {x y : Float} (hx : IsFinite x) {s : Sign} (hy : y.toModel.unpack = .infinity s) :
    IsFinite (x / y) ∧ toRational (x / y) = 0 := by
  have hzero : ∃ t, UnpackedFloat.div Format.binary64 x.toModel.unpack y.toModel.unpack = .zero t := by
    rw [hy]
    unfold IsFinite at hx
    cases hu : x.toModel.unpack with
    | infinity t => exact (hu ▸ hx : IsProper (.infinity t)).elim
    | notANumber => exact (hu ▸ hx : IsProper .notANumber).elim
    | zero t => exact ⟨_, rfl⟩
    | finite t m e hm => exact ⟨_, rfl⟩
  obtain ⟨t, ht⟩ := hzero
  have hpack : (x / y).toModel.unpack = .zero t := by
    change (Float.Model.pack (UnpackedFloat.div Format.binary64 _ _)).unpack = _
    rw [ht]
    exact Binary64.unpack_pack trivial
  unfold IsFinite toRational
  rw [hpack]
  exact ⟨trivial, rfl⟩

private theorem infinity_div_infinity {x y : Float} {s t : Sign} (hx : x.toModel.unpack = .infinity s)
    (hy : y.toModel.unpack = .infinity t) : (x / y).isNaN = true := by
  change (Float.Model.pack (UnpackedFloat.div Format.binary64 _ _)).unpack.isNaN = true
  rw [hx, hy, show UnpackedFloat.div Format.binary64 (.infinity s) (.infinity t) = .notANumber from rfl,
    Binary64.unpack_pack (show IsRegular .notANumber from trivial)]
  rfl

/-- The quotient of a natural number and one that is no less. -/
theorem quotient_isNaN_or_isWithin {i u : ℕ} (hiu : i ≤ u) (hu : 0 < u) :
    (Float.ofNat i / Float.ofNat u).isNaN = true ∨ IsWithin (Float.ofNat i / Float.ofNat u) (1 : ℕ) := by
  rcases ofNat_rounded_or_infinite i with hi | ⟨hi, hlimit⟩
  · rcases ofNat_rounded_or_infinite u with hd | ⟨hd, -⟩
    · obtain ⟨hq, h0, h1⟩ := quotient_rounded hi hd hiu hu
      exact .inr (hq.isWithin h0 (by exact_mod_cast h1) (by norm_num))
    · obtain ⟨hfinite, hzero⟩ := div_infinity hi.finite hd
      exact .inr ⟨hfinite, hzero.ge, by rw [hzero]; positivity⟩
  · rcases ofNat_rounded_or_infinite u with hd | ⟨hd, -⟩
    · have hmono : nearest (i : ℚ) ≤ nearest u := nearest_mono (by exact_mod_cast hiu)
      have hlt := lt_limit hd.finite
      rw [hd.toRational_eq] at hlt
      linarith
    · exact .inl (infinity_div_infinity hi hd)

/-- Zero parts of a natural number are zero, even if the number is out of reach. -/
theorem zero_div_isWhole {u : ℕ} (hu : 0 < u) : IsWhole (Float.ofNat 0 / Float.ofNat u) 0 := by
  have hzero := ofNat_isWhole (n := 0) (by norm_num)
  rcases ofNat_rounded_or_infinite u with hd | ⟨hd, -⟩
  · have hq := (quotient_rounded (ofNat_rounded (natCast_lt_limit (by norm_num))) hd (Nat.zero_le u) hu).1
    rw [Nat.cast_zero, nearest_zero, zero_div] at hq
    exact IsRounded.isWhole (by exact_mod_cast hq) (by norm_num)
  · obtain ⟨hfinite, hvalue⟩ := div_infinity hzero.finite hd
    exact ⟨hfinite, by rw [hvalue, Int.cast_zero]⟩

namespace IsWithin
variable {x y : Float} {m n : ℕ}

theorem add_rounded (hx : IsWithin x m) (hy : IsWithin y n) (h : m + n < 2^53) :
    IsRounded (x + y) (toRational x + toRational y) := by
  refine Binary64.add_rounded hx.finite hy.finite ?_
  have hle : toRational x + toRational y ≤ (m + n : ℕ) := by
    push_cast
    exact add_le_add hx.le hy.le
  rw [abs_of_nonneg (add_nonneg hx.nonneg hy.nonneg)]
  exact hle.trans_lt (natCast_lt_limit (by omega))

theorem add (hx : IsWithin x m) (hy : IsWithin y n) (h : m + n < 2^53) : IsWithin (x + y) (m + n : ℕ) := by
  refine (hx.add_rounded hy h).isWithin (add_nonneg hx.nonneg hy.nonneg) ?_ h
  push_cast
  exact add_le_add hx.le hy.le

/-- A difference of numbers within bounds is rounded, and no more than the first. -/
theorem sub (hx : IsWithin x m) (hy : IsWithin y n) (hm : m < 2^53) (hn : n < 2^53) :
    IsRounded (x - y) (toRational x - toRational y) ∧ toRational (x - y) ≤ m := by
  have habs : |toRational x - toRational y| < 2^(1023 : ℤ) := by
    have hxm := hx.le.trans_lt (natCast_lt_limit (by omega))
    have hyn := hy.le.trans_lt (natCast_lt_limit (by omega))
    exact abs_lt.2 ⟨by linarith [hx.nonneg], by linarith [hy.nonneg]⟩
  have hr := sub_rounded hx.finite hy.finite habs
  refine ⟨hr, ?_⟩
  rw [hr.toRational_eq, ← nearest_natCast hm]
  exact nearest_mono (by linarith [hx.le, hy.nonneg])

/-- Division by a number from 1 up does not lead out of the bound. -/
theorem div {bound : ℚ} (hx : IsWithin x bound) (hbound : nearest bound = bound) (hlim : bound < 2^(1023 : ℤ))
    (hy : IsFinite y) (hone : 1 ≤ toRational y) : IsWithin (x / y) bound := by
  have h0 : 0 ≤ toRational x / toRational y := div_nonneg hx.nonneg (by linarith)
  have hle : toRational x / toRational y ≤ bound := (div_le_self hx.nonneg hone).trans hx.le
  have hr := div_rounded hx.finite hy (by linarith) (by rw [abs_of_nonneg h0]; exact hle.trans_lt hlim)
  exact hr.isWithin_of h0 hle hbound

end IsWithin

/-- Zero divided by a positive number is the same zero. -/
theorem zero_div_of_pos {y : Float} (hy : IsFinite y) (hpos : 0 < toRational y) : 0 / y = 0 := by
  refine eq_of_unpack_eq ?_
  change (Float.Model.pack (UnpackedFloat.div Format.binary64 (.zero .positive) y.toModel.unpack)).unpack = .zero .positive
  unfold IsFinite at hy
  unfold toRational at hpos
  generalize y.toModel.unpack = u at *
  cases u with
  | infinity s => exact hy.elim
  | notANumber => exact hy.elim
  | zero s => exact absurd hpos (lt_irrefl 0)
  | finite s m e hm =>
    cases s with
    | positive => exact Binary64.unpack_pack (u := .zero .positive) trivial
    | negative =>
      have hmagnitude : (0 : ℚ) ≤ m * 2^e := by positivity
      rw [unpackedRational, Sign.apply] at hpos
      push_cast at hpos
      linarith

private theorem isNaN_iff (x : Float) : x.isNaN = true ↔ x.toModel.unpack = .notANumber := by
  change x.toModel.unpack.isNaN = true ↔ _
  exact UnpackedFloat.isNaN_iff

private theorem isNaN_ofModel_pack {u : UnpackedFloat} (h : u = .notANumber) :
    (Float.ofModel (.pack u)).isNaN = true := by
  subst h
  rfl

/-- An operation that passes NaN on has a result only for operands that are not NaN. -/
private theorem not_isNaN_operands {f : UnpackedFloat → UnpackedFloat → UnpackedFloat} {x y z : Float}
    (hz : z = .ofModel (.pack (f x.toModel.unpack y.toModel.unpack))) (hleft : ∀ v, f .notANumber v = .notANumber)
    (hright : ∀ u, f u .notANumber = .notANumber) (h : z.isNaN = false) : x.isNaN = false ∧ y.isNaN = false := by
  rw [← Bool.not_eq_true, ← Bool.not_eq_true, ← not_or]
  intro hxy
  have hnan : f x.toModel.unpack y.toModel.unpack = .notANumber := by
    rw [isNaN_iff, isNaN_iff] at hxy
    rcases hxy with hx | hy
    · rw [hx, hleft]
    · rw [hy, hright]
  rw [hz, isNaN_ofModel_pack hnan] at h
  cases h

theorem not_isNaN_of_add {x y : Float} (h : (x + y).isNaN = false) : x.isNaN = false ∧ y.isNaN = false :=
  not_isNaN_operands (f := UnpackedFloat.add Format.binary64) rfl (fun _ => rfl) (fun u => by cases u <;> rfl) h

theorem not_isNaN_of_sub {x y : Float} (h : (x - y).isNaN = false) : x.isNaN = false ∧ y.isNaN = false :=
  not_isNaN_operands (f := UnpackedFloat.sub Format.binary64) rfl (fun _ => rfl) (fun u => by cases u <;> rfl) h

end CallOrder.Binary64
