import CallOrder.Proofs.Decimal.Spelling
import Mathlib.Tactic.FieldSimp
import Mathlib.Tactic.Linarith
import Mathlib.Tactic.NormNum
import Mathlib.Tactic.Positivity

/-! The shortest decimal of a number is one that denotes it: it lies within half a place of the number, and it has at
most seventeen digits. -/
namespace CallOrder.Decimal

/-- Whether a rational lies where the decimals that denote `significand * 2 ^ exponent` lie. The ends belong to them if
the significand is even. -/
structure Denotes (significand : ℕ) (exponent : ℤ) (x : ℚ) : Prop where
  low : ((quarters significand exponent).1 : ℚ) * 2^(exponent - 2) ≤ x
  high : x ≤ ((quarters significand exponent).2 : ℚ) * 2^(exponent - 2)
  within : significand % 2 ≠ 0 → ((quarters significand exponent).1 : ℚ) * 2^(exponent - 2) < x ∧
    x < ((quarters significand exponent).2 : ℚ) * 2^(exponent - 2)

theorem zpow_toNat {b : ℚ} (hb : b ≠ 0) (n : ℤ) : b^n.toNat = b^(-n).toNat * b^n := by
  rw [← zpow_natCast, ← zpow_natCast, ← zpow_add₀ hb]
  congr 1
  omega

theorem quarter_value (significand : ℕ) (exponent : ℤ) :
    (significand : ℚ) * 2^exponent = 4 * significand * 2^(exponent - 2) := by
  rw [zpow_sub₀ (by norm_num)]
  ring

theorem Denotes.of_lt {significand : ℕ} {exponent : ℤ} {x : ℚ}
    (hlow : ((quarters significand exponent).1 : ℚ) * 2^(exponent - 2) < x)
    (hhigh : x < ((quarters significand exponent).2 : ℚ) * 2^(exponent - 2)) : Denotes significand exponent x :=
  ⟨hlow.le, hhigh.le, fun _ => ⟨hlow, hhigh⟩⟩

section Grid
variable (ten two : ℤ)

/-- The two sides of a grid, which hold a common factor. -/
theorem Grid.of_eq : ∃ k : ℚ, 0 < k ∧ ((Grid.of ten two).unit : ℚ) = k * 10^ten ∧
    ((Grid.of ten two).scale : ℚ) = k * 2^two := by
  refine ⟨10^(-ten).toNat * 2^(-two).toNat, by positivity, ?_, ?_⟩
  · simp only [Grid.of, Nat.pow_eq, Nat.cast_mul, Nat.cast_pow, Nat.cast_ofNat]
    rw [zpow_toNat (by norm_num) ten]
    ring
  · simp only [Grid.of, Nat.pow_eq, Nat.cast_mul, Nat.cast_pow, Nat.cast_ofNat]
    rw [zpow_toNat (by norm_num) two]
    ring

theorem Grid.scale_le_unit_iff (n c : ℕ) :
    n * (Grid.of ten two).scale ≤ c * (Grid.of ten two).unit ↔ (n : ℚ) * 2^two ≤ c * 10^ten := by
  obtain ⟨k, hk, hunit, hscale⟩ := Grid.of_eq ten two
  rw [← Nat.cast_le (α := ℚ), Nat.cast_mul, Nat.cast_mul, hunit, hscale, mul_left_comm, mul_left_comm (c : ℚ)]
  exact mul_le_mul_iff_right₀ hk

theorem Grid.unit_le_scale_iff (n c : ℕ) :
    c * (Grid.of ten two).unit ≤ n * (Grid.of ten two).scale ↔ (c : ℚ) * 10^ten ≤ n * 2^two := by
  obtain ⟨k, hk, hunit, hscale⟩ := Grid.of_eq ten two
  rw [← Nat.cast_le (α := ℚ), Nat.cast_mul, Nat.cast_mul, hunit, hscale, mul_left_comm, mul_left_comm (n : ℚ)]
  exact mul_le_mul_iff_right₀ hk

theorem Grid.denotes_iff {significand : ℕ} {exponent : ℤ} (c : ℕ) :
    (Grid.of ten (exponent - 2)).denotes significand exponent c = true ↔
      Denotes significand exponent (c * 10^ten) := by
  simp only [Grid.denotes]
  split
  · rename_i heven
    rw [Bool.and_eq_true, decide_eq_true_eq, decide_eq_true_eq, Grid.scale_le_unit_iff, Grid.unit_le_scale_iff]
    exact ⟨fun h => ⟨h.1, h.2, fun hodd => absurd heven hodd⟩, fun h => ⟨h.low, h.high⟩⟩
  · rename_i hodd
    rw [Bool.and_eq_true, decide_eq_true_eq, decide_eq_true_eq, ← not_le, ← not_le, Grid.unit_le_scale_iff,
      Grid.scale_le_unit_iff, not_le, not_le]
    exact ⟨fun h => ⟨h.1.le, h.2.le, fun _ => h⟩, fun h => h.within hodd⟩

/-- The decimal of a grid right below a number, or the number itself. -/
def Grid.below (significand : ℕ) : ℕ := 4 * significand * (Grid.of ten two).scale / (Grid.of ten two).unit

theorem Grid.below_spec (significand : ℕ) (exponent : ℤ) :
    (Grid.below ten (exponent - 2) significand : ℚ) * 10^ten ≤ significand * 2^exponent ∧
      (significand : ℚ) * 2^exponent < (Grid.below ten (exponent - 2) significand + 1) * 10^ten := by
  have hunit : 0 < (Grid.of ten (exponent - 2)).unit := by simp only [Grid.of, Nat.pow_eq]; positivity
  have hvalue : (significand : ℚ) * 2^exponent = ((4 * significand : ℕ) : ℚ) * 2^(exponent - 2) := by
    rw [quarter_value]
    push_cast
    rfl
  rw [hvalue]
  constructor
  · rw [← Grid.unit_le_scale_iff]
    exact Nat.div_mul_le_self _ _
  · rw [← not_le, ← Nat.cast_one, ← Nat.cast_add, ← Grid.unit_le_scale_iff, not_le]
    exact Nat.lt_mul_of_div_lt (Nat.lt_succ_self _) hunit

end Grid

theorem Tie.choose_eq (tie : Tie) (below : ℕ) : tie.choose below = below ∨ tie.choose below = below + 1 := by
  cases tie with
  | toEven => rcases Nat.mod_two_eq_zero_or_one below with h | h <;> simp [Tie.choose, h]
  | away => exact .inr rfl

variable {tie : Tie} {significand : ℕ} {exponent : ℤ}

/-- The decimal that is taken of a grid is one of the two next to the number, and denotes it. -/
theorem Grid.nearest?_spec {ten : ℤ} {c : ℕ}
    (h : (Grid.of ten (exponent - 2)).nearest? tie significand exponent = some c) :
    Denotes significand exponent (c * 10^ten) ∧
      (c = Grid.below ten (exponent - 2) significand ∨ c = Grid.below ten (exponent - 2) significand + 1) := by
  rw [← Grid.denotes_iff]
  simp only [Grid.nearest?] at h
  rw [← Grid.below] at h
  split at h
  · cases h
  · cases h
    exact ⟨‹_›, .inl rfl⟩
  · cases h
    exact ⟨‹_›, .inr rfl⟩
  · rename_i hbelow habove
    split at h <;> cases h
    · exact ⟨hbelow, .inl rfl⟩
    · exact ⟨habove, .inr rfl⟩
    · rcases tie.choose_eq (Grid.below ten (exponent - 2) significand) with heq | heq <;> rw [heq]
      · exact ⟨hbelow, .inl rfl⟩
      · exact ⟨habove, .inr rfl⟩

theorem Grid.denotes_of_nearest?_eq_none {ten : ℤ}
    (h : (Grid.of ten (exponent - 2)).nearest? tie significand exponent = none) :
    ¬ Denotes significand exponent (Grid.below ten (exponent - 2) significand * 10^ten) ∧
      ¬ Denotes significand exponent ((Grid.below ten (exponent - 2) significand + 1 : ℕ) * 10^ten) := by
  rw [← Grid.denotes_iff, ← Grid.denotes_iff]
  simp only [Grid.nearest?] at h
  rw [← Grid.below] at h
  split at h
  · rename_i hbelow habove
    simp [hbelow, habove]
  · cases h
  · cases h
  · split at h <;> cases h

theorem digitsOf_bounds {n : ℕ} (hn : 0 < n) :
    (10 : ℚ)^((digitsOf n).length - 1 : ℤ) ≤ n ∧ (n : ℚ) < 10^((digitsOf n).length : ℤ) := by
  have hpos : 0 < (digitsOf n).length := Nat.length_toDigits_pos
  constructor
  · obtain ⟨k, hk⟩ := Nat.exists_eq_add_of_lt hpos
    have hle : 10^k ≤ n := by
      rcases Nat.eq_zero_or_pos k with rfl | hk0
      · exact hn
      · rw [← not_lt, ← Nat.length_toDigits_le_iff (by norm_num) hk0, ← digitsOf]
        omega
    rw [hk, show ((0 + k + 1 : ℕ) : ℤ) - 1 = k by omega, zpow_natCast]
    exact_mod_cast hle
  · rw [zpow_natCast]
    exact_mod_cast (Nat.length_toDigits_le_iff (by norm_num) hpos).1 le_rfl

section Quotient
variable {num den : ℕ} (hden : 0 < den)

include hden

/-- The difference of the numbers of digits is the leading exponent of a quotient, or one too much. -/
private theorem quotient_bounds (hnum : 0 < num) :
    (10 : ℚ)^((digitsOf num).length - (digitsOf den).length - 1 : ℤ) ≤ num / den ∧
      (num / den : ℚ) < 10^((digitsOf num).length - (digitsOf den).length + 1 : ℤ) := by
  have hdenQ : (0 : ℚ) < den := by exact_mod_cast hden
  obtain ⟨hnumlo, hnumhi⟩ := digitsOf_bounds hnum
  obtain ⟨hdenlo, hdenhi⟩ := digitsOf_bounds hden
  constructor
  · rw [le_div_iff₀ hdenQ, sub_right_comm, zpow_sub₀ (by norm_num), div_mul_eq_mul_div, div_le_iff₀ (by positivity)]
    exact mul_le_mul hnumlo hdenhi.le hdenQ.le (by positivity)
  · rw [div_lt_iff₀ hdenQ, sub_add, zpow_sub₀ (by norm_num), div_mul_eq_mul_div,
      lt_div_iff₀ (by positivity)]
    exact mul_lt_mul hnumhi hdenlo (by positivity) (by positivity)

private theorem quotient_lt_iff (guess : ℤ) :
    num * Nat.pow 10 (-guess).toNat < den * Nat.pow 10 guess.toNat ↔ (num / den : ℚ) < 10^guess := by
  rw [div_lt_iff₀ (by exact_mod_cast hden), ← Nat.cast_lt (α := ℚ)]
  simp only [Nat.pow_eq, Nat.cast_mul, Nat.cast_pow, Nat.cast_ofNat]
  rw [zpow_toNat (by norm_num : (10 : ℚ) ≠ 0) guess, mul_comm (num : ℚ), mul_comm (den : ℚ), mul_assoc]
  exact mul_lt_mul_iff_right₀ (by positivity)

end Quotient

/-- The leading digit of a number stands at the greatest power of ten that is not beyond it. -/
theorem leadingExponent_spec (hpos : 0 < significand) (exponent : ℤ) :
    (10 : ℚ)^leadingExponent significand exponent ≤ significand * 2^exponent ∧
      (significand : ℚ) * 2^exponent < 10^(leadingExponent significand exponent + 1) := by
  obtain ⟨num, hnum⟩ : ∃ num, num = significand * Nat.pow 2 exponent.toNat := ⟨_, rfl⟩
  obtain ⟨den, hden⟩ : ∃ den, den = Nat.pow 2 (-exponent).toNat := ⟨_, rfl⟩
  have hnum0 : 0 < num := by rw [hnum, Nat.pow_eq]; positivity
  have hden0 : 0 < den := by rw [hden, Nat.pow_eq]; positivity
  have hdenQ : (0 : ℚ) < den := by exact_mod_cast hden0
  have hvalue : (significand : ℚ) * 2^exponent = num / den := by
    rw [eq_div_iff hdenQ.ne', hnum, hden]
    simp only [Nat.pow_eq, Nat.cast_mul, Nat.cast_pow, Nat.cast_ofNat]
    rw [zpow_toNat (by norm_num) exponent]
    ring
  obtain ⟨guess, hguess⟩ : ∃ guess : ℤ, guess = (digitsOf num).length - (digitsOf den).length := ⟨_, rfl⟩
  have hlead : leadingExponent significand exponent =
      if num * Nat.pow 10 (-guess).toNat < den * Nat.pow 10 guess.toNat then guess - 1 else guess := by
    rw [leadingExponent, hguess, hnum, hden]
    rfl
  obtain ⟨hlow, hhigh⟩ := quotient_bounds hden0 hnum0
  rw [← hguess] at hlow hhigh
  rw [hvalue, hlead]
  split
  · rename_i hlt
    rw [sub_add_cancel]
    exact ⟨hlow, (quotient_lt_iff hden0 guess).1 hlt⟩
  · rename_i hge
    rw [quotient_lt_iff hden0, not_lt] at hge
    exact ⟨hge, hhigh⟩

/-- How wide the interval of the decimals is that denote a number, in quarters of its last binary place. -/
def quartersWidth (significand : ℕ) (exponent : ℤ) : ℚ :=
  (quarters significand exponent).2 - (quarters significand exponent).1

/-- A grid without a decimal that denotes the number has a step as wide as the interval of those decimals: the decimals
next to the number lie outside of it. -/
theorem Grid.quartersWidth_le {ten : ℤ} (h : (Grid.of ten (exponent - 2)).nearest? tie significand exponent = none) :
    quartersWidth significand exponent * 2^(exponent - 2) ≤ 10^ten := by
  obtain ⟨hbelow, habove⟩ := Grid.denotes_of_nearest?_eq_none h
  obtain ⟨hlo, hhi⟩ := Grid.below_spec ten significand exponent
  rw [quarter_value] at hlo hhi
  have hp : (0 : ℚ) < 2^(exponent - 2) := by positivity
  have hfirst : ((quarters significand exponent).1 : ℚ) ≤ 4 * significand := by
    simp only [quarters]
    exact_mod_cast Nat.sub_le _ _
  have hlast : (4 * significand : ℚ) < (quarters significand exponent).2 := by
    simp only [quarters]
    push_cast
    linarith
  have hlow : Grid.below ten (exponent - 2) significand * (10 : ℚ)^ten ≤
      (quarters significand exponent).1 * 2^(exponent - 2) := by
    by_contra hc
    exact hbelow (.of_lt (not_le.1 hc) (lt_of_le_of_lt hlo (mul_lt_mul_of_pos_right hlast hp)))
  have hhigh : (quarters significand exponent).2 * 2^(exponent - 2) ≤
      (Grid.below ten (exponent - 2) significand + 1) * (10 : ℚ)^ten := by
    by_contra hc
    refine habove (.of_lt ?_ ?_) <;> rw [Nat.cast_add, Nat.cast_one]
    · exact lt_of_le_of_lt (mul_le_mul_of_nonneg_right hfirst hp.le) hhi
    · exact not_le.1 hc
  rw [quartersWidth, sub_mul]
  linarith

/-- Half a place on either side, and only a quarter of one downwards if a finer neighbour is below. -/
theorem quartersWidth_eq (hpos : 0 < significand) (exponent : ℤ) :
    quartersWidth significand exponent = 4 ∨ quartersWidth significand exponent = 3 ∧ significand = hiddenBit := by
  simp only [quartersWidth, quarters]
  split
  · rename_i hleast
    rw [Bool.and_eq_true, decide_eq_true_eq] at hleast
    refine .inr ⟨?_, hleast.1⟩
    rw [Nat.cast_sub (by omega)]
    push_cast
    ring
  · left
    rw [Nat.cast_sub (by omega)]
    push_cast
    ring

/-- Seventeen digits tell the numbers apart. -/
private theorem lt_quartersWidth (hpos : 0 < significand) (hlt : significand < 2^53) (exponent : ℤ) :
    4 * (significand : ℚ) < quartersWidth significand exponent * 10^16 := by
  have hltQ : (significand : ℚ) < 2^53 := by exact_mod_cast hlt
  rcases quartersWidth_eq hpos exponent with hfour | ⟨hthree, hbit⟩
  · rw [hfour]
    linarith
  · rw [hthree, hbit]
    norm_num [hiddenBit]

/-- A grid that is fine enough has a decimal that denotes the number: the decimals next to the number cannot both be
too far from it. -/
theorem Grid.nearest?_ne_none (hpos : 0 < significand) (hlt : significand < 2^53) {ten : ℤ}
    (hten : (10 : ℚ)^ten * 10^(16 : ℤ) ≤ significand * 2^exponent) :
    (Grid.of ten (exponent - 2)).nearest? tie significand exponent ≠ none := by
  intro hnone
  have hp : (0 : ℚ) < 2^(exponent - 2) := by positivity
  refine absurd ?_ (lt_quartersWidth hpos hlt exponent).not_ge
  refine le_of_mul_le_mul_right ?_ hp
  calc
    quartersWidth significand exponent * 10^16 * 2^(exponent - 2)
      = quartersWidth significand exponent * 2^(exponent - 2) * 10^(16 : ℤ) := by rw [mul_right_comm]; norm_cast
    _ ≤ 10^ten * 10^(16 : ℤ) := mul_le_mul_of_nonneg_right (Grid.quartersWidth_le hnone) (by positivity)
    _ ≤ significand * 2^exponent := hten
    _ = 4 * significand * 2^(exponent - 2) := quarter_value significand exponent

/-- Taking zeros off the end does not change the decimal. -/
theorem Scaled.trim_spec (count : ℕ) {d : Scaled} (hpos : 0 < d.digits) :
    (d.trim count).value = d.value ∧ 0 < (d.trim count).digits ∧ (d.trim count).digits ≤ d.digits := by
  induction count generalizing d with
  | zero => exact ⟨rfl, hpos, le_rfl⟩
  | succ count ih =>
    rw [trim]
    split
    · rename_i hzero
      have hdigits : d.digits = 10 * (d.digits / 10) := by omega
      obtain ⟨hvalue, hpos', hle⟩ := ih (d := ⟨d.digits / 10, d.exponent + 1⟩) (show 0 < d.digits / 10 by omega)
      refine ⟨?_, hpos', hle.trans (Nat.div_le_self _ _)⟩
      have hcast : (d.digits : ℚ) = 10 * (d.digits / 10 : ℕ) := by exact_mod_cast hdigits
      rw [hvalue, value, value, hcast, zpow_add_one₀ (by norm_num)]
      ring
    · exact ⟨rfl, hpos, le_rfl⟩

/-- As many digits of a number as there are places below its leading one. -/
private theorem Grid.below_lt {lead : ℤ} (hbeyond : (significand : ℚ) * 2^exponent < 10^(lead + 1)) (more : ℕ) :
    Grid.below (lead - more) (exponent - 2) significand < 10^(more + 1) := by
  have hstep : (0 : ℚ) < 10^(lead - more) := by positivity
  have hlt := lt_of_le_of_lt (Grid.below_spec (lead - more) significand exponent).1 hbeyond
  rw [show lead + 1 = (more + 1 : ℕ) + (lead - more) by push_cast; ring, zpow_add₀ (by norm_num), zpow_natCast] at hlt
  exact_mod_cast lt_of_mul_lt_mul_right hlt hstep.le

private theorem Denotes.pos (hpos : 0 < significand) {c : ℕ} {ten : ℤ} (h : Denotes significand exponent (c * 10^ten)) :
    0 < c := by
  have hstep : (0 : ℚ) < 10^ten := by positivity
  have hfirst : (0 : ℚ) < (quarters significand exponent).1 := by
    simp only [quarters]
    exact_mod_cast (show 0 < 4 * significand - _ by split <;> omega)
  have hlow : (0 : ℚ) < c * 10^ten := lt_of_lt_of_le (by positivity) h.low
  exact_mod_cast (mul_pos_iff_of_pos_right hstep).1 hlow

/-- The shortest decimal of a number denotes it, and has at most seventeen digits. -/
theorem shortest_spec (tie : Tie) (hpos : 0 < significand) (hlt : significand < 2^53) (exponent : ℤ) :
    Denotes significand exponent (shortest tie significand exponent).value ∧
      0 < (shortest tie significand exponent).digits ∧ (shortest tie significand exponent).digits ≤ 10^17 := by
  obtain ⟨hlead, hbeyond⟩ := leadingExponent_spec hpos exponent
  obtain ⟨lead, hleadeq⟩ : ∃ lead, lead = leadingExponent significand exponent := ⟨_, rfl⟩
  rw [← hleadeq] at hlead hbeyond
  let candidate (more : ℕ) : Option Scaled :=
    ((Grid.of (lead - more) (exponent - 2)).nearest? tie significand exponent).map fun c => ⟨c, lead - more⟩
  have hshortest : shortest tie significand exponent =
      (((List.range 17).findSome? candidate).getD ⟨0, 0⟩).trim 17 := by
    rw [shortest, if_neg hpos.ne', ← hleadeq]
    rfl
  cases hfound : (List.range 17).findSome? candidate with
  | none =>
    have hnone := List.findSome?_eq_none_iff.1 hfound 16 (by decide)
    refine absurd (Option.map_eq_none_iff.1 hnone) (Grid.nearest?_ne_none hpos hlt ?_)
    rw [← zpow_add₀ (by norm_num)]
    simpa using hlead
  | some d =>
    obtain ⟨more, hmore, hcandidate⟩ := List.exists_of_findSome?_eq_some hfound
    obtain ⟨c, hc, rfl⟩ := Option.map_eq_some_iff.1 hcandidate
    obtain ⟨hdenotes, hnext⟩ := Grid.nearest?_spec hc
    have hmore17 : more < 17 := List.mem_range.1 hmore
    have hbound := Grid.below_lt hbeyond more
    have hpow : 10^(more + 1) ≤ 10^17 := Nat.pow_le_pow_right (by norm_num) (by omega)
    have hc17 : c ≤ 10^17 := by omega
    obtain ⟨hvalue, hpos', hle⟩ := Scaled.trim_spec 17 (d := ⟨c, lead - more⟩) (hdenotes.pos hpos)
    rw [hshortest, hfound, Option.getD_some, hvalue]
    exact ⟨hdenotes, hpos', hle.trans hc17⟩

end CallOrder.Decimal
