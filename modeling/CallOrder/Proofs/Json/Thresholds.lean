import CallOrder.Proofs.Json.Reach
import CallOrder.Proofs.Validity

/-! A number that is given by its shortest decimal, read as JSON. The steps of the reading may miss its last place, but
a threshold is read as a threshold, and anything else as something else or not at all. -/
namespace CallOrder

open Binary64 Decimal

/-- Whether a spelling is that of the shortest decimal of a number, with its sign apart. Two decimals may be equally near;
either will do. -/
structure Decimal.Spelling.IsShortestOf (spelling : Spelling) (negative : Bool) (x : Float) : Prop where
  finite : IsFinite x
  shortest : ∃ tie m e, Parts.ofFloat x = .finite negative m e ∧ spelling.value = (shortest tie m e).value

namespace Decimal.Spelling.IsShortestOf
variable {spelling : Spelling} {negative : Bool} {x : Float}

theorem exists_canonical (h : spelling.IsShortestOf negative x) :
    ∃ tie m e, IsCanonical m e ∧ toRational x = (if negative then -1 else 1) * (m * 2^e) ∧
      |toRational x| = m * 2^e ∧ spelling.value = (Decimal.shortest tie m e).value := by
  obtain ⟨tie, m, e, hparts, hvalue⟩ := h.shortest
  obtain ⟨s, m', e', -, hcanonical, -, hparts'⟩ := parts_of_finite h.finite
  have hrational := toRational_of_parts h.finite hparts
  have hmagnitude : |toRational x| = m * 2^e := by
    have h0 : (0 : ℚ) ≤ m * 2^e := by positivity
    rw [hrational, abs_mul, abs_of_nonneg h0]
    cases negative <;> simp
  rw [hparts] at hparts'
  cases hparts'
  exact ⟨tie, m, e, hcanonical, hrational, hmagnitude, hvalue⟩

/-- The number is the one that is nearest to the decimal. -/
theorem nearest_value (h : spelling.IsShortestOf negative x) : nearest spelling.value = |toRational x| := by
  obtain ⟨tie, m, e, hcanonical, -, hmagnitude, hvalue⟩ := h.exists_canonical
  rw [hmagnitude, hvalue]
  rcases Nat.eq_zero_or_pos m with rfl | hpos
  · rw [shortest_zero]
    simp [Scaled.value]
  · exact nearest_of_denotes hcanonical hpos (shortest_spec tie hpos hcanonical.lt e).1

theorem eq_false_of_pos (h : spelling.IsShortestOf negative x) (hpos : 0 < toRational x) : negative = false := by
  obtain ⟨tie, m, e, -, hrational, -, -⟩ := h.exists_canonical
  cases negative with
  | false => rfl
  | true =>
    have h0 : (0 : ℚ) ≤ m * 2^e := by positivity
    rw [if_pos rfl] at hrational
    linarith

theorem nonneg (h : spelling.IsShortestOf false x) : 0 ≤ toRational x := by
  obtain ⟨tie, m, e, -, hrational, -, -⟩ := h.exists_canonical
  rw [hrational, if_neg Bool.false_ne_true, one_mul]
  positivity

theorem significand_eq_zero (h : spelling.IsShortestOf negative x) (hx : toRational x = 0) : spelling.significand = 0 := by
  obtain ⟨tie, m, e, -, -, hmagnitude, hvalue⟩ := h.exists_canonical
  have hm : m = 0 := by
    rw [hx, abs_zero, eq_comm, mul_eq_zero, or_iff_left (by positivity)] at hmagnitude
    exact_mod_cast hmagnitude
  rw [hm, shortest_zero, Spelling.value, Scaled.value, Nat.cast_zero, zero_mul, mul_eq_zero,
    or_iff_left (by positivity)] at hvalue
  exact_mod_cast hvalue

/-- Rounding the decimal once gives the number again, with the sign of zero. -/
theorem reads_back (h : spelling.IsShortestOf negative x) :
    (if negative then -nearestFloat spelling.significand spelling.scale
      else nearestFloat spelling.significand spelling.scale) = x := by
  obtain ⟨tie, m, e, hparts, hvalue⟩ := h.shortest
  exact shortest_reads_back tie hparts hvalue

private theorem ten_pow_le : 10^324 ≤ 2^1074 * 5 := by decide +kernel

/-- The least number is written with a decimal above it. -/
theorem le_value (h : spelling.IsShortestOf negative x) (hpos : 0 < toRational x) : 2^(-1074 : ℤ) ≤ spelling.value := by
  obtain ⟨tie, m, e, hcanonical, -, hmagnitude, hvalue⟩ := h.exists_canonical
  have hm : 0 < m := by
    refine Nat.pos_of_ne_zero ?_
    rintro rfl
    rw [Nat.cast_zero, zero_mul, abs_eq_zero] at hmagnitude
    exact hpos.ne' hmagnitude
  by_contra hlt
  have hle : (m : ℚ) * 2^e ≤ 2^(-1074 : ℤ) := by
    have hmono := nearest_mono (not_le.1 hlt).le
    rwa [Json.Numeral.nearest_two_zpow le_rfl, h.nearest_value, hmagnitude] at hmono
  have hplace : e = -1074 := by
    refine le_antisymm ?_ hcanonical.le
    have hone : (1 : ℚ) ≤ m := by exact_mod_cast hm
    have hpow : (2 : ℚ)^e ≤ 2^(-1074 : ℤ) := (le_mul_of_one_le_left (by positivity) hone).trans hle
    exact (zpow_le_zpow_iff_right₀ (by norm_num)).1 hpow
  subst hplace
  have hone : m = 1 := by
    have hp : (0 : ℚ) < 2^(-1074 : ℤ) := by positivity
    have hm1 : (m : ℚ) ≤ 1 := le_of_mul_le_mul_right (by rwa [one_mul]) hp
    have hm1' : m ≤ 1 := by exact_mod_cast hm1
    omega
  subst hone
  have hshortest : Decimal.shortest tie 1 (-1074) = ⟨5, -324⟩ := by
    cases tie <;> decide +kernel
  refine hlt ?_
  rw [hvalue, hshortest, Scaled.value, zpow_neg, zpow_neg, ← div_eq_mul_inv, le_div_iff₀ (by positivity),
    inv_mul_le_iff₀ (by positivity)]
  have hcast : ((10^324 : ℕ) : ℚ) ≤ (2^1074 * 5 : ℕ) := Nat.cast_le.2 ten_pow_le
  simpa only [Nat.cast_pow, Nat.cast_mul, Nat.cast_ofNat, zpow_ofNat] using hcast

private theorem exponent_cases {m : ℕ} {e : ℤ} (h : IsCanonical m e) :
    (m : ℚ) * 2^e < 2 ∨ (2^52 ≤ m ∧ e = -51) ∨ 4 ≤ (m : ℚ) * 2^e := by
  have hp : (0 : ℚ) < 2^e := by positivity
  rcases lt_trichotomy e (-51) with hlt | rfl | hgt
  · left
    have hm : (m : ℚ) < 2^(53 : ℤ) := by exact_mod_cast h.lt
    calc
      (m : ℚ) * 2^e < 2^(53 : ℤ) * 2^e := mul_lt_mul_of_pos_right hm hp
      _ ≤ 2^(53 : ℤ) * 2^(-52 : ℤ) := mul_le_mul_of_nonneg_left
        (zpow_le_zpow_right₀ (by norm_num) (by omega)) (by positivity)
      _ = 2 := by norm_num
  · exact .inr (.inl ⟨h.full.resolve_right (by norm_num), rfl⟩)
  · right; right
    have hm : (2 : ℚ)^(52 : ℤ) ≤ m := by exact_mod_cast h.full.resolve_right (by omega)
    calc
      (4 : ℚ) = 2^(52 : ℤ) * 2^(-50 : ℤ) := by norm_num
      _ ≤ m * 2^e := mul_le_mul hm (zpow_le_zpow_right₀ (by norm_num) (by omega)) (by positivity) (by positivity)

theorem value_le_two (h : spelling.IsShortestOf negative x) (hle : |toRational x| ≤ 2) : spelling.value ≤ 2 := by
  by_contra hlt
  have hmono := nearest_mono (not_le.1 hlt).le
  rw [nearest_two, h.nearest_value] at hmono
  obtain ⟨tie, m, e, hcanonical, -, habs, hvalue⟩ := h.exists_canonical
  have hmagnitude : (m : ℚ) * 2^e = 2 := by linarith
  obtain ⟨hm, rfl⟩ : m = 2^52 ∧ e = -51 := by
    rcases exponent_cases hcanonical with hless | ⟨-, rfl⟩ | hmore
    · linarith
    · have hm : (m : ℚ) = 2^52 := by
        norm_num at hmagnitude ⊢
        linarith
      exact ⟨by exact_mod_cast hm, rfl⟩
    · linarith
  subst hm
  have hshortest : Decimal.shortest tie (2^52) (-51) = ⟨2, 0⟩ := by
    cases tie <;> decide +kernel
  rw [hvalue, hshortest] at hlt
  norm_num [Scaled.value] at hlt

/-- Above two the decimal keeps a distance, but for that of the first number there. -/
theorem two_lt_value (h : spelling.IsShortestOf negative x) (hlt : 2 < toRational x) :
    2 < spelling.value ∧ (2 + 2^(-50 : ℤ) ≤ nearest spelling.value ∨
      spelling.value = 20000000000000004 * 10^(-16 : ℤ)) := by
  have hpos : 0 < toRational x := by linarith
  constructor
  · by_contra hle
    have hmono := nearest_mono (not_lt.1 hle)
    rw [nearest_two, h.nearest_value, abs_of_pos hpos] at hmono
    linarith
  · obtain ⟨tie, m, e, hcanonical, -, hmagnitude, hvalue⟩ := h.exists_canonical
    rw [h.nearest_value, hmagnitude]
    rw [← abs_of_pos hpos, hmagnitude] at hlt
    rcases exponent_cases hcanonical with hless | ⟨hm, rfl⟩ | hmore
    · linarith
    · rcases hm.eq_or_lt with rfl | hm
      · norm_num at hlt
      rcases (Nat.succ_le_of_lt hm).eq_or_lt with rfl | hm
      · right
        have hshortest : Decimal.shortest tie (2^52).succ (-51) = ⟨20000000000000004, -16⟩ := by
          cases tie <;> decide +kernel
        rw [hvalue, hshortest]
        rfl
      · left
        have hm2 : (4503599627370498 : ℚ) ≤ m := by exact_mod_cast hm
        norm_num
        linarith
    · left
      norm_num
      linarith

end Decimal.Spelling.IsShortestOf

/-- The digits of a decimal that is written for data fit into a word. -/
theorem Decimal.Notation.Spells.significand_lt {d : Scaled} {spelling : Spelling} {text : List Char}
    (h : dataNotation.Spells d spelling text) (hdigits : d.digits ≤ 10^17) : spelling.significand < UInt64.size := by
  have hsize : 10^17 < UInt64.size := by decide
  rcases h.significand with heq | ⟨hpositional, hexponent, heq⟩
  · exact heq ▸ hdigits.trans_lt hsize
  · obtain ⟨places, hplaces⟩ := Int.eq_ofNat_of_zero_le hexponent
    simp only [dataNotation, Scaled.lead, Bool.and_eq_true, decide_eq_true_eq] at hpositional
    have hlength : 0 < (digitsOf d.digits).length := Nat.length_toDigits_pos
    have hlt : d.digits < 10^(16 - places) :=
      (Nat.length_toDigits_le_iff (by norm_num) (by omega)).1 (show (digitsOf d.digits).length ≤ _ by omega)
    rw [heq, hplaces, Int.toNat_natCast]
    calc
      d.digits * 10^(places + 1) < 10^(16 - places) * 10^(places + 1) := Nat.mul_lt_mul_of_pos_right hlt (by positivity)
      _ = 10^17 := by
        rw [← pow_add]
        congr 1
        omega
      _ < UInt64.size := hsize

/-- Every finite number has a shortest decimal, and a spelling of it whose digits fit into a word. -/
theorem Decimal.exists_isShortestOf {x : Float} (hx : IsFinite x) : ∃ spelling negative text,
    Spelling.IsText spelling text ∧ spelling.IsShortestOf negative x ∧ spelling.significand < UInt64.size := by
  obtain ⟨negative, m, e, hparts, hcanonical, spelling, text, hspells, -⟩ :=
    spells_spellParts Json.Value.dataNotation_isExplicit hx
  have hdigits : (shortest .toEven m e).digits ≤ 10^17 := by
    rcases Nat.eq_zero_or_pos m with rfl | hpos
    · rw [shortest_zero]
      exact Nat.zero_le _
    · exact (shortest_spec .toEven hpos hcanonical.lt e).2.2
  exact ⟨spelling, negative, text, hspells.isText, ⟨hx, .toEven, m, e, hparts, hspells.value_eq⟩,
    hspells.significand_lt hdigits⟩

namespace Json

section Scale
open Numeral
variable {m : ℕ} {k : ℤ}

private theorem eq_zero_of_le_two (hpos : 0 < m) (hk : 0 ≤ k) (hle : (m : ℚ) * 10^k ≤ 2) : k = 0 := by
  by_contra hne
  have hone : (1 : ℚ) ≤ m := by exact_mod_cast hpos
  have hten : (10 : ℚ)^(1 : ℤ) ≤ 10^k := zpow_le_zpow_right₀ (by norm_num) (by omega)
  rw [zpow_one] at hten
  nlinarith

/-- A decimal above zero and up to two is read as such a number, and one that is near to the decimal. -/
theorem Numeral.exists_scale (hm : m < UInt64.size) (hpos : 0 < m) (hlow : 2^(-1074 : ℤ) ≤ (m : ℚ) * 10^k)
    (hle : (m : ℚ) * 10^k ≤ 2) :
    ∃ size, scale m k = .ok size ∧ IsThreshold size ∧
      |toRational size - nearest (m * 10^k)| ≤ 2^(-50 : ℤ) * nearest (m * 10^k) + 2^(-900 : ℤ) := by
  rcases lt_or_ge k 0 with hk | hk
  · obtain ⟨size, hsize, hfinite, hnear⟩ := scale_near hm hk
    exact ⟨size, hsize, ⟨hfinite, scale_pos hm hpos hk hlow hsize, scale_le_two hm hk hle hsize⟩, hnear⟩
  · obtain rfl := eq_zero_of_le_two hpos hk hle
    have hrounded := natCast_rounded hm
    rw [zpow_zero, mul_one] at hle ⊢
    have hbetween := (nearest_natCast_between m).1
    have hone : (1 : ℚ) ≤ m := by exact_mod_cast hpos
    refine ⟨_, scale_whole hm, ⟨hrounded.finite, ?_, ?_⟩, ?_⟩
    · rw [hrounded.toRational_eq]
      linarith
    · rw [hrounded.toRational_eq, ← nearest_two]
      exact nearest_mono hle
    · rw [hrounded.toRational_eq, sub_self, abs_zero]
      have h0 : 0 ≤ nearest (m : ℚ) := by linarith
      positivity

end Scale

section Reading
variable {spelling : Spelling} {negative : Bool} {x : Float}

/-- What is read of a number, whether it is spelled as a whole one or not. -/
theorem Format.real_read_ofSpelling (hfits : spelling.significand < UInt64.size) (negative : Bool) (depth : ℕ) :
    Format.real.read depth (.number (.ofSpelling negative spelling)) =
      (Numeral.scale spelling.significand spelling.scale).map fun size => if negative then -size else size := by
  have hreal := Numeral.realValue_ofSpelling hfits negative
  by_cases hspelled : spelling.IsReal
  · simp only [Format.real, Numeral.value_ofSpelling hspelled, hreal]
    cases Numeral.scale spelling.significand spelling.scale <;> rfl
  obtain ⟨whole, fraction, exponent⟩ := spelling
  simp only [Spelling.IsReal, not_or, Option.not_isSome_iff_eq_none] at hspelled
  obtain ⟨rfl, rfl⟩ := hspelled
  have hdigits : Spelling.significand ⟨whole, none, none⟩ = valueOfDigits whole := by
    rw [Spelling.significand, Option.getD_none, List.append_nil]
  have hscale : Spelling.scale ⟨whole, none, none⟩ = 0 := rfl
  rw [hdigits] at hfits
  rw [hdigits, hscale, Numeral.scale_whole hfits] at hreal ⊢
  generalize hn : valueOfDigits whole = n at *
  cases negative with
  | false =>
    have hvalue : (Numeral.ofSpelling false ⟨whole, none, none⟩).value = .ok (.whole n) := by
      simp [Numeral.value, Numeral.ofSpelling, hn, hfits]
    simp only [Format.real, hvalue]
    rfl
  | true =>
    by_cases hword : 0 < n ∧ 2 * n ≤ UInt64.size
    · obtain ⟨j, rfl⟩ : ∃ j, n = j + 1 := ⟨n - 1, by omega⟩
      have hvalue : (Numeral.ofSpelling true ⟨whole, none, none⟩).value = .ok (.whole (.negSucc j)) := by
        simp [Numeral.value, Numeral.ofSpelling, hn, hword]
        omega
      simp only [Format.real, hvalue]
      rfl
    · have hvalue : (Numeral.ofSpelling true ⟨whole, none, none⟩).value =
          (Numeral.ofSpelling true ⟨whole, none, none⟩).realValue.map .real := by
        rw [not_and_or] at hword
        rcases hword with hword | hword <;> simp [Numeral.value, Numeral.ofSpelling, hn, hword]
      simp only [Format.real, hvalue, hreal]
      rfl

/-- A threshold is read as one that is near to it, and as itself where its decimal has few digits and few places. -/
theorem Format.real_read_threshold (h : spelling.IsShortestOf negative x) (hfits : spelling.significand < UInt64.size)
    (hx : IsThreshold x) (depth : ℕ) :
    ∃ y, Format.real.read depth (.number (.ofSpelling negative spelling)) = .ok y ∧ IsThreshold y ∧
      |toRational y - toRational x| ≤ 2^(-50 : ℤ) * toRational x + 2^(-900 : ℤ) ∧
      (spelling.significand < 2^53 → -22 ≤ spelling.scale → y = x) := by
  obtain rfl := h.eq_false_of_pos hx.pos
  have habs := abs_of_pos hx.pos
  have hlow := h.le_value hx.pos
  have hle := h.value_le_two (habs.trans_le hx.le_two)
  have hback := h.reads_back
  have hnearest := h.nearest_value
  rw [if_neg Bool.false_ne_true] at hback
  rw [habs] at hnearest
  rw [Spelling.value] at hlow hle hnearest
  have hpos : 0 < spelling.significand := by
    refine Nat.pos_of_ne_zero fun hzero => ?_
    rw [hzero, Nat.cast_zero, zero_mul] at hlow
    exact absurd hlow (not_le.2 (by positivity))
  obtain ⟨y, hy, hthreshold, hnear⟩ := Numeral.exists_scale hfits hpos hlow hle
  rw [hnearest] at hnear
  refine ⟨y, ?_, hthreshold, hnear, fun hfew hplaces => ?_⟩
  · rw [Format.real_read_ofSpelling hfits, hy]
    rfl
  rcases lt_or_ge spelling.scale 0 with hk | hk
  · rw [Numeral.scale_exact hfew hk hplaces] at hy
    exact (Except.ok.inj hy).symm.trans hback
  · have hzero := eq_zero_of_le_two hpos hk hle
    rw [hzero, Numeral.scale_whole hfits] at hy
    rw [hzero, zpow_zero, mul_one] at hnearest
    have hrounded := natCast_rounded hfits
    rw [Except.ok.inj hy] at hrounded
    have hsame : toRational y = toRational x := hrounded.toRational_eq.trans hnearest
    exact eq_of_toRational_eq hthreshold.finite hx.finite hsame hthreshold.pos.ne'

/-- What is no threshold is not read as one. -/
theorem Format.real_read_of_not_threshold (h : spelling.IsShortestOf negative x)
    (hfits : spelling.significand < UInt64.size) (hx : ¬ IsThreshold x) (depth : ℕ) :
    Format.real.read depth (.number (.ofSpelling negative spelling)) = .error .numberTooLarge ∨
      ∃ y, Format.real.read depth (.number (.ofSpelling negative spelling)) = .ok y ∧ ¬ IsThreshold y := by
  have hscale : Numeral.scale spelling.significand spelling.scale = .error .numberTooLarge ∨
      ∃ size, Numeral.scale spelling.significand spelling.scale = .ok size ∧
        ¬ IsThreshold (if negative then -size else size) := by
    cases negative with
    | true =>
      refine (Numeral.scale_nonneg hfits spelling.scale).imp_right ?_
      rintro ⟨size, hsize, -, hnonneg⟩
      refine ⟨size, hsize, fun hthreshold => ?_⟩
      have hpos := hthreshold.pos
      rw [if_pos rfl, toRational_neg] at hpos
      linarith
    | false =>
      rcases lt_or_ge 2 (toRational x) with hlarge | hle
      · obtain ⟨hlt, hgap⟩ := h.two_lt_value hlarge
        rw [Spelling.value] at hlt hgap
        refine (Numeral.two_lt_scale hfits hlt hgap).imp_right ?_
        rintro ⟨size, hsize, -, hlarge⟩
        exact ⟨size, hsize, fun hthreshold => absurd hthreshold.le_two (not_le.2 hlarge)⟩
      · -- Without a sign only zero is left.
        have hx0 : toRational x = 0 := by
          by_contra hne
          exact hx ⟨h.finite, lt_of_le_of_ne h.nonneg (Ne.symm hne), hle⟩
        obtain ⟨size, hsize, -, hvalue⟩ := Numeral.exists_scale_zero spelling.scale
        rw [h.significand_eq_zero hx0]
        exact .inr ⟨size, hsize, fun hthreshold => hthreshold.pos.ne' hvalue⟩
  rw [Format.real_read_ofSpelling hfits]
  rcases hscale with hscale | ⟨size, hscale, hnot⟩
  · rw [hscale]
    exact .inl rfl
  · rw [hscale]
    exact .inr ⟨_, rfl, hnot⟩

end Reading

end Json

end CallOrder
