import CallOrder.Proofs.Binary64.Bounds

/-! Operands that trade places. A sum stays the same, and a difference changes its sign. -/
namespace CallOrder.Binary64
open Float.Model Float.Model.UnpackedFloat

private theorem unpacked_add_comm (u v : UnpackedFloat) :
    UnpackedFloat.add Format.binary64 u v = UnpackedFloat.add Format.binary64 v u := by
  cases u with
  | notANumber => cases v <;> rfl
  | infinity s =>
    cases v with
    | infinity t => cases s <;> cases t <;> rfl
    | _ => rfl
  | zero s =>
    cases v with
    | zero t => cases s <;> cases t <;> rfl
    | _ => rfl
  | finite s m e hm =>
    cases v with
    | finite t n f hn =>
      simp only [UnpackedFloat.add]
      rw [min_comm, Int.add_comm]
    | _ => rfl

/-- A sum has the same bits whichever term comes first. -/
theorem add_swap (x y : Float) : x + y = y + x := by
  change Float.ofModel (.pack (UnpackedFloat.add Format.binary64 x.toModel.unpack y.toModel.unpack)) = _
  rw [unpacked_add_comm]
  rfl

private theorem round_neg (s : Sign) (m : ℕ) (e : ℤ) :
    UnpackedFloat.round Format.binary64 (-s) m e = (UnpackedFloat.round Format.binary64 s m e).neg := by
  simp only [UnpackedFloat.round, roundWithAccuracy]
  split <;> rfl

private theorem normalize_neg {m : ℤ} (hm : m ≠ 0) (e : ℤ) (zeroSign : Sign) :
    UnpackedFloat.normalize Format.binary64 (-m) e zeroSign =
      (UnpackedFloat.normalize Format.binary64 m e zeroSign).neg := by
  unfold UnpackedFloat.normalize
  rcases lt_or_gt_of_ne hm with hlt | hgt
  · rw [Int.compare_eq_gt.2 (by omega : 0 < -m), Int.compare_eq_lt.2 hlt]
    exact round_neg .negative _ e
  · rw [Int.compare_eq_lt.2 (by omega : -m < 0), Int.compare_eq_gt.2 hgt, neg_neg]
    exact round_neg .positive _ e

/-- Only a difference of equal numbers does not change its sign: both ways round it is the positive zero. -/
private theorem unpacked_sub_swap (u v : UnpackedFloat) :
    UnpackedFloat.sub Format.binary64 u v = (UnpackedFloat.sub Format.binary64 v u).neg ∨
      UnpackedFloat.sub Format.binary64 u v = .zero .positive ∧ UnpackedFloat.sub Format.binary64 v u = .zero .positive := by
  cases u with
  | notANumber => cases v <;> exact .inl rfl
  | infinity s =>
    cases v with
    | notANumber => exact .inl rfl
    | infinity t => cases s <;> cases t <;> exact .inl rfl
    | _ => cases s <;> exact .inl rfl
  | zero s =>
    cases v with
    | notANumber => exact .inl rfl
    | infinity t => cases t <;> exact .inl rfl
    | zero t =>
      cases s <;> cases t
      · exact .inr ⟨rfl, rfl⟩
      · exact .inl rfl
      · exact .inl rfl
      · exact .inr ⟨rfl, rfl⟩
    | finite t n f hn => cases t <;> exact .inl rfl
  | finite s m e hm =>
    cases v with
    | notANumber => exact .inl rfl
    | infinity t => cases t <;> exact .inl rfl
    | zero t => cases s <;> exact .inl rfl
    | finite t n f hn =>
      simp only [UnpackedFloat.sub]
      rw [min_comm f e]
      generalize s.apply ((decreaseExponent m e (min e f)).1 : ℤ) = a
      generalize t.apply ((decreaseExponent n f (min e f)).1 : ℤ) = b
      by_cases h : b - a = 0
      · rw [h, show a - b = 0 by omega]
        exact .inr ⟨rfl, rfl⟩
      · rw [← neg_sub b a, normalize_neg h]
        exact .inl rfl

private theorem unpack_packComponents_neg (s : Sign) {ex : BitVec 11} (man : BitVec 52) (h : ex ≠ -1#11) :
    UnpackedFloat.unpack Format.binary64 (packComponents Format.binary64 (-s) ex man) =
      (UnpackedFloat.unpack Format.binary64 (packComponents Format.binary64 s ex man)).neg := by
  rw [unpack_packComponents _ _ h, unpack_packComponents _ _ h]
  split
  · split <;> rfl
  · rfl

/-- The sign of a number is kept apart from its other parts, also where these are out of reach. -/
theorem unpack_pack_neg (u : UnpackedFloat) :
    (Float.Model.pack u.neg).unpack = (Float.Model.pack u).unpack.neg := by
  have hregular : ∀ w, IsRegular w → (Float.Model.pack w.neg).unpack = (Float.Model.pack w).unpack.neg := by
    intro w hw
    rw [unpack_pack hw, unpack_pack (neg_regular hw)]
  cases u with
  | notANumber => exact hregular _ trivial
  | infinity s => exact hregular _ trivial
  | zero s => exact hregular _ trivial
  | finite s m e hm =>
    rw [UnpackedFloat.neg]
    by_cases he : 971 < e
    · rw [unpack_pack_beyond s hm he, unpack_pack_beyond (-s) hm he]
      rfl
    · obtain ⟨k, hk⟩ : ∃ k, (e + 1075).toNat = k := ⟨_, rfl⟩
      have hlt : k < 2047 := by omega
      have hexponent : BitVec.ofNat 11 k ≠ -1#11 := by
        intro h
        have hnat := congrArg BitVec.toNat h
        rw [BitVec.toNat_ofNat, Nat.mod_eq_of_lt (by omega)] at hnat
        exact absurd (hnat.trans (by decide : (-1#11).toNat = 2047)) hlt.ne
      simp only [Float.Model.pack, Float.Model.unpack, pack_finite _ hm hk hlt]
      split
      · exact unpack_packComponents_neg s _ hexponent
      · exact unpack_packComponents_neg s _ (by decide)

/-- The other way round a difference has the other sign, unless it is the positive zero both ways. -/
theorem sub_swap (x y : Float) : x - y = -(y - x) ∨ x - y = 0 ∧ y - x = 0 := by
  have hsub : ∀ a b : Float,
      a - b = .ofModel (.pack (UnpackedFloat.sub Format.binary64 a.toModel.unpack b.toModel.unpack)) := fun _ _ => rfl
  rcases unpacked_sub_swap x.toModel.unpack y.toModel.unpack with h | ⟨hxy, hyx⟩
  · left
    apply eq_of_unpack_eq
    rw [unpack_neg, hsub, hsub, h]
    exact unpack_pack_neg _
  · right
    rw [hsub, hsub, hxy, hyx]
    exact ⟨rfl, rfl⟩

end CallOrder.Binary64
