import CallOrder.Proofs.Binary64.Operands
import CallOrder.Proofs.Soundness

/-! A call, and the call with two of its arguments exchanged. What the exchange gains in the one it loses in the other,
so it is never suggested in both; and no pair of other positions can tell the two calls apart. -/
namespace CallOrder
open Binary64

section Lists
variable {α β : Type} {xs : List α} {i j : ℕ}

private theorem getElem?_swap (hi : i < xs.length) (hj : j < xs.length) (k : ℕ) :
    (xs.swap i j)[k]? = xs[Equiv.swap i j k]? := by
  rw [List.swap_eq_of_lt hi hj, Equiv.swap_apply_def]
  by_cases hkj : k = j
  · subst hkj
    by_cases hki : k = i
    · subst hki
      simp
    · simp [hki, hj]
  · by_cases hki : k = i
    · subst hki
      simp [Ne.symm hkj, hi]
    · simp [Ne.symm hkj, Ne.symm hki, hkj, hki]

private theorem map_swap (f : α → β) (xs : List α) (i j : ℕ) : (xs.swap i j).map f = (xs.map f).swap i j := by
  apply List.ext_getElem
  · simp
  · intro k _ _
    simp only [List.getElem_map, List.getElem_swap, List.length_map]
    split_ifs <;> rfl

end Lists

/-- The call with the arguments at two positions exchanged. Positions count from 1. -/
def CallSite.exchange (site : CallSite) (p : ℕ × ℕ) : CallSite := ⟨site.arguments.swap (p.1 - 1) (p.2 - 1)⟩

namespace Alignment
variable {a : Alignment} {p q : ℕ × ℕ} {t u : Float}

def exchange (a : Alignment) (p : ℕ × ℕ) : Alignment := ⟨a.parameters, a.arguments.swap (p.1 - 1) (p.2 - 1)⟩

theorem exchange_range (a : Alignment) (p : ℕ × ℕ) : (a.exchange p).range = a.range := by
  rw [range, exchange, List.length_swap, range]

theorem exchange_argument (hp : a.IsPair p) {i : ℕ} (hi : 1 ≤ i) :
    (a.exchange p).argument i = a.argument (Equiv.swap p.1 p.2 i) := by
  obtain ⟨hpos, hlt, hle⟩ := hp
  have hlength : a.range ≤ a.arguments.length := Nat.min_le_right _ _
  have hindex : Equiv.swap (p.1 - 1) (p.2 - 1) (i - 1) = Equiv.swap p.1 p.2 i - 1 := by
    simp only [Equiv.swap_apply_def]
    split_ifs <;> omega
  rw [argument, exchange, List.getD_eq_getElem?_getD, getElem?_swap (by omega) (by omega), hindex,
    ← List.getD_eq_getElem?_getD, argument]

theorem exchange_score (hp : a.IsPair p) (i : ℕ) {j : ℕ} (hj : 1 ≤ j) :
    (a.exchange p).score i j = a.score i (Equiv.swap p.1 p.2 j) := by
  rw [score, exchange_argument hp hj]
  rfl

/-- The scores of the pair itself as it is written and of the pair crossed trade places, in the order in which they are
added. -/
theorem exchange_margin (hp : a.IsPair p) :
    (a.exchange p).margin p = -a.margin p ∨ (a.exchange p).margin p = 0 ∧ a.margin p = 0 := by
  have hfirst := hp.pos
  have hsecond : 1 ≤ p.2 := hfirst.trans hp.lt.le
  have hmargin : (a.exchange p).margin p =
      (a.score p.1 p.1 + a.score p.2 p.2) - (a.score p.1 p.2 + a.score p.2 p.1) := by
    rw [margin, exchange_score hp _ hsecond, exchange_score hp _ hfirst, exchange_score hp _ hfirst,
      exchange_score hp _ hsecond, Equiv.swap_apply_left, Equiv.swap_apply_right]
  rw [hmargin]
  exact sub_swap _ _

theorem toRational_exchange_margin (hp : a.IsPair p) :
    toRational ((a.exchange p).margin p) = -toRational (a.margin p) := by
  rcases exchange_margin hp with h | ⟨hexchanged, hwritten⟩
  · rw [h, toRational_neg]
  · rw [hexchanged, hwritten, toRational_zero, neg_zero]

/-- A pair of other positions has its own four scores as before. -/
theorem exchange_score_of_apart (hp : a.IsPair p) (hq : a.IsPair q) (h : ¬ Meets p q) (i : ℕ) :
    (a.exchange p).score i q.1 = a.score i q.1 ∧ (a.exchange p).score i q.2 = a.score i q.2 := by
  unfold Meets at h
  rw [exchange_score hp i hq.pos, exchange_score hp i (hq.pos.trans hq.lt.le)]
  constructor
  · rw [Equiv.swap_apply_of_ne_of_ne (by omega) (by omega)]
  · rw [Equiv.swap_apply_of_ne_of_ne (by omega) (by omega)]

theorem exchange_margin_of_apart (hp : a.IsPair p) (hq : a.IsPair q) (h : ¬ Meets p q) :
    (a.exchange p).margin q = a.margin q := by
  have hscore := exchange_score_of_apart hp hq h
  rw [margin, (hscore _).1, (hscore _).1, (hscore _).2, (hscore _).2, margin]

theorem exchange_isEligible_of_apart (hp : a.IsPair p) (hq : a.IsPair q) (h : ¬ Meets p q) :
    (a.exchange p).IsEligible t q ↔ a.IsEligible t q := by
  have hscore := exchange_score_of_apart hp hq h
  have hmargin := exchange_margin_of_apart hp hq h
  constructor
  · intro he
    have hrelated := he.related
    have hgains := he.gains
    rw [(hscore _).1, (hscore _).2] at hrelated
    rw [hmargin] at hgains
    exact ⟨hq, hrelated, hgains⟩
  · intro he
    refine ⟨⟨hq.pos, hq.lt, (a.exchange_range p).symm ▸ hq.le⟩, ?_, ?_⟩
    · rw [(hscore _).1, (hscore _).2]
      exact he.related
    · rw [hmargin]
      exact he.gains

/-- An eligible pair gains something, so its exchange back gains nothing. -/
theorem IsEligible.not_exchange (h : a.IsEligible t p) (ht : 0 < t) (hu : 0 < u) : ¬ (a.exchange p).IsEligible u p := by
  have hpos : ∀ {x y : Float}, 0 < x → x ≤ y → 0 < toRational y := by
    intro x y hx hxy
    have hlt := (lt_iff.1 hx).2.2
    rw [toRational_zero] at hlt
    exact hlt.trans_le (le_iff.1 hxy).2.2
  intro hback
  have hwritten := hpos ht h.gains
  have hexchanged := hpos hu hback.gains
  rw [toRational_exchange_margin h.toIsPair] at hexchanged
  linarith

end Alignment

theorem Signature.align_exchange (signature : Signature) (site : CallSite) (policy : MorphemePolicy) (p : ℕ × ℕ) :
    signature.align (site.exchange p) policy = (signature.align site policy).exchange p := by
  rw [align, CallSite.exchange, map_swap]
  rfl

/-- When an exchange is reported of a call, it is not reported of the call in which it is made: its margin there is the
negated one, to the bit, but that a zero is positive in both. The pairs of other positions keep their margins and stay
eligible or not. -/
theorem exchange_not_suggested_back (signature : Signature) (site : CallSite) (policy : MorphemePolicy) (p : ℕ × ℕ)
    (hp : (signature.align site policy).IsPair p) :
    let call := signature.align site policy
    let exchanged := signature.align (site.exchange p) policy
    (∀ t u : Float, 0 < t → 0 < u → p ∈ (search signature site t policy).positions →
      p ∉ (search signature (site.exchange p) u policy).positions) ∧
    (exchanged.margin p = -call.margin p ∨ exchanged.margin p = 0 ∧ call.margin p = 0) ∧
    toRational (exchanged.margin p) = -toRational (call.margin p) ∧
    ∀ q, call.IsPair q → ¬ Meets p q →
      exchanged.margin q = call.margin q ∧ ∀ t, exchanged.IsEligible t q ↔ call.IsEligible t q := by
  intro call exchanged
  have hexchanged : exchanged = call.exchange p := signature.align_exchange site policy p
  rw [hexchanged]
  refine ⟨?_, Alignment.exchange_margin hp, Alignment.toRational_exchange_margin hp, ?_⟩
  · intro t u ht hu hreported hback
    rw [search_positions] at hreported hback
    rw [signature.align_exchange] at hback
    exact (Alignment.selected_eligible hreported).not_exchange ht hu (Alignment.selected_eligible hback)
  · intro q hq hapart
    refine ⟨Alignment.exchange_margin_of_apart hp hq hapart, ?_⟩
    intro t
    exact Alignment.exchange_isEligible_of_apart hp hq hapart

theorem exchange_not_suggested_back_index :
    let signature : Signature := { parameters := some ["start_index", "end_index", "source", "target"] }
    let site := CallSite.ofNames ["endIndex", "startIndex", "target", "source"]
    let call := signature.align site {}
    let exchanged := signature.align (site.exchange (1, 2)) {}
    call.IsPair (1, 2) ∧ (0 : Float) < 1.2 ∧ (0 : Float) < 0.5 ∧ call.IsPair (3, 4) ∧ ¬ Meets (1, 2) (3, 4) ∧
      (1, 2) ∈ (search signature site 1.2 {}).positions ∧
      (1, 2) ∉ (search signature (site.exchange (1, 2)) 0.5 {}).positions ∧
      (exchanged.margin (1, 2) = -call.margin (1, 2) ∨ exchanged.margin (1, 2) = 0 ∧ call.margin (1, 2) = 0) ∧
      toRational (exchanged.margin (1, 2)) = -toRational (call.margin (1, 2)) ∧
      exchanged.margin (3, 4) = call.margin (3, 4) ∧
      (exchanged.IsEligible 1.2 (3, 4) ↔ call.IsEligible 1.2 (3, 4)) := by
  intro signature site call exchanged
  have hpair : call.IsPair (1, 2) := ⟨by decide, by decide, by decide⟩
  have hother : call.IsPair (3, 4) := ⟨by decide, by decide, by decide⟩
  have hapart : ¬ Meets (1, 2) (3, 4) := by
    unfold Meets
    decide
  have hhigh : (0 : Float) < 1.2 := by decide +kernel
  have hlow : (0 : Float) < 0.5 := by decide +kernel
  have hreported : (1, 2) ∈ (search signature site 1.2 {}).positions := by decide +kernel
  obtain ⟨hback, hmargin, hexact, hothers⟩ := exchange_not_suggested_back signature site {} (1, 2) hpair
  obtain ⟨hsame, heligible⟩ := hothers (3, 4) hother hapart
  exact ⟨hpair, hhigh, hlow, hother, hapart, hreported, hback _ _ hhigh hlow hreported, hmargin, hexact, hsame,
    heligible _⟩

end CallOrder
