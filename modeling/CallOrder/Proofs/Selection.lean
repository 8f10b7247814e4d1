import CallOrder.Search
import Mathlib.Data.Prod.Lex
import Mathlib.Order.WellFoundedSet

/-! Stable choices. A choice is stable when it takes exactly those eligible items that no better item
of the choice collides with; a greedy pass over ranked pairs makes one, and there is no other. -/
namespace CallOrder

/-- Chosen is what is eligible and meets no chosen item that outranks it. -/
def IsStable {α : Type} (eligible : α → Prop) (outranks meets : α → α → Prop) (chosen : α → Prop) : Prop :=
  ∀ p, chosen p ↔ eligible p ∧ ∀ q, chosen q → outranks q p → ¬ meets q p

namespace IsStable
variable {α β : Type} {eligible eligible' : α → Prop} {outranks outranks' meets : α → α → Prop}
  {chosen other : α → Prop}

theorem eligible_of_chosen (h : IsStable eligible outranks meets chosen) {p : α} (hp : chosen p) : eligible p :=
  ((h p).1 hp).1

/-- An eligible item that is not chosen gives way to a chosen one. -/
theorem exists_outranks (h : IsStable eligible outranks meets chosen) {p : α} (he : eligible p) (hp : ¬ chosen p) :
    ∃ q, chosen q ∧ outranks q p ∧ meets q p := by
  by_contra hn
  exact hp ((h p).2 ⟨he, fun q hq hqp hm => hn ⟨q, hq, hqp, hm⟩⟩)

/-- Finitely many items, strictly ranked, have at most one stable choice. -/
theorem unique [IsStrictOrder α outranks] (hf : {p | eligible p}.Finite)
    (hc : IsStable eligible outranks meets chosen) (ho : IsStable eligible outranks meets other) (p : α) :
    chosen p ↔ other p := by
  by_cases hp : eligible p
  · refine (hf.wellFoundedOn (r := outranks)).induction (P := fun p => chosen p ↔ other p) hp fun p _ ih => ?_
    rw [hc p, ho p]
    refine and_congr_right fun _ => ⟨fun h q hq hqp => ?_, fun h q hq hqp => ?_⟩
    · exact h q ((ih q (ho.eligible_of_chosen hq) hqp).2 hq) hqp
    · exact h q ((ih q (hc.eligible_of_chosen hq) hqp).1 hq) hqp
  · exact ⟨fun h => absurd (hc.eligible_of_chosen h) hp, fun h => absurd (ho.eligible_of_chosen h) hp⟩

/-- Only the rank of colliding eligible items matters. -/
theorem congr (he : ∀ p, eligible p ↔ eligible' p)
    (hr : ∀ p q, eligible p → eligible q → meets q p → (outranks q p ↔ outranks' q p))
    (h : IsStable eligible outranks meets chosen) : IsStable eligible' outranks' meets chosen := by
  intro p
  rw [h p, he p]
  refine and_congr_right fun hp => forall_congr' fun q => ⟨fun hq hc hqp hm => ?_, fun hq hc hqp hm => ?_⟩
  · exact hq hc ((hr p q ((he p).2 hp) (h.eligible_of_chosen hc) hm).2 hqp) hm
  · exact hq hc ((hr p q ((he p).2 hp) (h.eligible_of_chosen hc) hm).1 hqp) hm

/-- A choice of items is one of their images when the image relations are those of the items. -/
theorem map {f : α → β} {eligible' : β → Prop} {outranks' meets' : β → β → Prop}
    (he : ∀ b, eligible' b ↔ ∃ a, eligible a ∧ f a = b)
    (hr : ∀ p q, eligible p → eligible q → (outranks' (f q) (f p) ↔ outranks q p))
    (hm : ∀ p q, meets' (f q) (f p) ↔ meets q p) (h : IsStable eligible outranks meets chosen) :
    IsStable eligible' outranks' meets' fun b => ∃ a, chosen a ∧ f a = b := by
  intro b
  simp only [he b]
  constructor
  · rintro ⟨a, ha, rfl⟩
    have hea := h.eligible_of_chosen ha
    refine ⟨⟨a, hea, rfl⟩, ?_⟩
    rintro _ ⟨q, hq, rfl⟩ hqa hma
    exact ((h a).1 ha).2 q hq ((hr a q hea (h.eligible_of_chosen hq)).1 hqa) ((hm a q).1 hma)
  · rintro ⟨⟨a, ha, rfl⟩, hall⟩
    refine ⟨a, (h a).2 ⟨ha, fun q hq hqa hma => ?_⟩, rfl⟩
    exact hall (f q) ⟨q, hq, rfl⟩ ((hr a q ha (h.eligible_of_chosen hq)).2 hqa) ((hm a q).2 hma)

/-- Items of two kinds that never meet are chosen independently. -/
theorem union (h : IsStable eligible outranks meets chosen) (h' : IsStable eligible' outranks meets other)
    (hm : ∀ p q, eligible p → eligible' q → ¬ meets p q ∧ ¬ meets q p) :
    IsStable (fun p => eligible p ∨ eligible' p) outranks meets fun p => chosen p ∨ other p := by
  intro p
  constructor
  · rintro (hp | hp)
    · refine ⟨.inl (h.eligible_of_chosen hp), ?_⟩
      rintro q (hq | hq) hqp
      · exact ((h p).1 hp).2 q hq hqp
      · exact (hm p q (h.eligible_of_chosen hp) (h'.eligible_of_chosen hq)).2
    · refine ⟨.inr (h'.eligible_of_chosen hp), ?_⟩
      rintro q (hq | hq) hqp
      · exact (hm q p (h.eligible_of_chosen hq) (h'.eligible_of_chosen hp)).1
      · exact ((h' p).1 hp).2 q hq hqp
  · rintro ⟨hp | hp, hall⟩
    · exact .inl ((h p).2 ⟨hp, fun q hq => hall q (.inl hq)⟩)
    · exact .inr ((h' p).2 ⟨hp, fun q hq => hall q (.inr hq)⟩)

end IsStable

section Ranked
variable {α K : Type} [LinearOrder K] {comesAfter : α → α → Bool} {key : α → K}

private theorem mem_insertRanked {x y : α} {xs : List α} :
    y ∈ insertRanked comesAfter x xs ↔ y = x ∨ y ∈ xs := by
  rw [(insertRanked_perm comesAfter x xs).mem_iff, List.mem_cons]

@[simp]
theorem mem_ranked {x : α} {xs : List α} : x ∈ ranked comesAfter xs ↔ x ∈ xs :=
  (ranked_perm comesAfter xs).mem_iff

private theorem pairwise_insertRanked {x : α} {xs : List α}
    (hk : ∀ y ∈ xs, comesAfter x y = true ↔ key y < key x) (hs : xs.Pairwise (key · ≤ key ·)) :
    (insertRanked comesAfter x xs).Pairwise (key · ≤ key ·) := by
  induction xs with
  | nil => simp [insertRanked]
  | cons y rest ih =>
    rw [List.pairwise_cons] at hs
    have hy := hk y (by simp)
    unfold insertRanked
    split
    · rename_i h
      refine List.pairwise_cons.2 ⟨fun z hz => ?_, ih (fun z hz => hk z (by simp [hz])) hs.2⟩
      rcases mem_insertRanked.1 hz with rfl | hz
      · exact (hy.1 h).le
      · exact hs.1 z hz
    · rename_i h
      have hxy : key x ≤ key y := not_lt.1 fun hlt => h (hy.2 hlt)
      refine List.pairwise_cons.2 ⟨fun z hz => ?_, List.pairwise_cons.2 hs⟩
      rcases List.mem_cons.1 hz with rfl | hz
      · exact hxy
      · exact hxy.trans (hs.1 z hz)

/-- Items whose order is that of their keys end up in that order. -/
theorem pairwise_ranked {xs : List α} (hk : ∀ x ∈ xs, ∀ y ∈ xs, comesAfter x y = true ↔ key y < key x) :
    (ranked comesAfter xs).Pairwise (key · ≤ key ·) := by
  induction xs with
  | nil => exact .nil
  | cons x rest ih =>
    refine pairwise_insertRanked (fun y hy => hk x (by simp) y ?_) (ih fun y hy z hz => ?_)
    · exact List.mem_cons_of_mem x (mem_ranked.1 hy)
    · exact hk y (by simp [hy]) z (by simp [hz])

theorem pairwise_lt_ranked {xs : List α} (hi : Function.Injective key) (hn : xs.Nodup)
    (hk : ∀ x ∈ xs, ∀ y ∈ xs, comesAfter x y = true ↔ key y < key x) :
    (ranked comesAfter xs).Pairwise (key · < key ·) := by
  have hd : (ranked comesAfter xs).Nodup := (ranked_perm comesAfter xs).nodup_iff.2 hn
  refine ((pairwise_ranked hk).and hd).imp fun {x y} h => ?_
  exact lt_of_le_of_ne h.1 fun he => h.2 (hi he)

end Ranked

/-- Whether a pair of positions stands before another. -/
def Precedes (p q : ℕ × ℕ) : Prop := p.1 < q.1 ∨ p.1 = q.1 ∧ p.2 < q.2

/-- Whether two pairs of positions have a position in common. -/
def Meets (p q : ℕ × ℕ) : Prop := p.1 = q.1 ∨ p.1 = q.2 ∨ p.2 = q.1 ∨ p.2 = q.2

theorem precedes_iff {p q : ℕ × ℕ} : Precedes p q ↔ toLex p < toLex q := Prod.Lex.toLex_lt_toLex.symm

theorem Precedes.irrefl (p : ℕ × ℕ) : ¬ Precedes p p := fun h => lt_irrefl _ (precedes_iff.1 h)

theorem Precedes.asymm {p q : ℕ × ℕ} (h : Precedes p q) : ¬ Precedes q p := fun h' =>
  lt_asymm (precedes_iff.1 h) (precedes_iff.1 h')

instance : Std.Irrefl Precedes := ⟨Precedes.irrefl⟩

instance : Std.Antisymm Precedes := ⟨fun _ _ h h' => (h.asymm h').elim⟩

namespace Pair
variable {n : Nat} {p q : Pair n}

/-- The positions of a pair, from 1. -/
def positions (p : Pair n) : ℕ × ℕ := (p.first + 1, p.second + 1)

theorem positions_injective : Function.Injective (positions (n := n)) := by
  intro p q h
  simp only [positions, Prod.mk.injEq, Nat.add_right_cancel_iff] at h
  exact Pair.ext (Fin.ext h.1) (Fin.ext h.2)

theorem isAfter_iff : p.isAfter q = true ↔ Precedes q.positions p.positions := by
  simp only [isAfter, Precedes, positions, Bool.or_eq_true, Bool.and_eq_true, decide_eq_true_eq, beq_iff_eq,
    Fin.ext_iff, Fin.lt_def]
  omega

theorem overlaps_iff : p.overlaps q = true ↔ Meets q.positions p.positions := by
  simp only [Meets, positions, overlaps, Bool.or_eq_true, beq_iff_eq, Fin.ext_iff]
  omega

theorem mem_all (p : Pair n) : p ∈ all n := by
  refine List.mem_flatMap.2 ⟨p.first, List.mem_finRange _, List.mem_filterMap.2 ⟨p.second, List.mem_finRange _, ?_⟩⟩
  rw [dif_pos p.first_lt_second]

theorem all_ascending (n : Nat) : ((all n).map positions).Pairwise Precedes := by
  refine List.pairwise_map.2 (List.pairwise_flatMap.2 ⟨fun i _ => ?_, ?_⟩)
  · refine List.pairwise_filterMap.2 ((List.pairwise_lt_finRange n).imp fun {j k} hjk p hj q hk => ?_)
    simp only [Option.dite_none_right_eq_some, Option.some.injEq] at hj hk
    obtain ⟨_, rfl⟩ := hj
    obtain ⟨_, rfl⟩ := hk
    exact .inr ⟨rfl, Nat.succ_lt_succ hjk⟩
  · refine (List.pairwise_lt_finRange n).imp fun {i j} hij p hi q hj => ?_
    simp only [List.mem_filterMap, Option.dite_none_right_eq_some, Option.some.injEq] at hi hj
    obtain ⟨_, _, _, rfl⟩ := hi
    obtain ⟨_, _, _, rfl⟩ := hj
    exact .inl (Nat.succ_lt_succ hij)

theorem nodup_all : (all n).Nodup := by
  refine (List.pairwise_map.1 (all_ascending n)).imp ?_
  rintro p _ h rfl
  exact Precedes.irrefl _ h

end Pair

section Greedy
variable {n : Nat} {K : Type} [LinearOrder K] {rank : Pair n → K}

theorem selectDisjoint_sublist (taken xs : List (Pair n)) : (selectDisjoint taken xs).Sublist xs := by
  induction xs generalizing taken with
  | nil => exact List.Sublist.slnil
  | cons p rest ih =>
    unfold selectDisjoint
    split
    · exact (ih taken).cons p
    · exact (ih (p :: taken)).cons_cons p

/-- The pass takes a pair unless it overlaps what was taken before or what it takes of a better rank. -/
theorem mem_selectDisjoint {taken xs : List (Pair n)} (hs : xs.Pairwise (rank · < rank ·)) (p : Pair n) :
    p ∈ selectDisjoint taken xs ↔
      p ∈ xs ∧ taken.any p.overlaps = false ∧
        ∀ q ∈ selectDisjoint taken xs, rank q < rank p → p.overlaps q = false := by
  induction xs generalizing taken with
  | nil => simp [selectDisjoint]
  | cons x rest ih =>
    rw [List.pairwise_cons] at hs
    unfold selectDisjoint
    split
    · rename_i hx
      rw [ih hs.2]
      refine ⟨fun h => ⟨List.mem_cons_of_mem x h.1, h.2⟩, fun h => ⟨?_, h.2⟩⟩
      rcases List.mem_cons.1 h.1 with rfl | hp
      · rw [h.2.1] at hx
        exact absurd hx Bool.false_ne_true
      · exact hp
    -- What is taken after x ranks behind it, so x has nothing to give way to, and stands in the way of the rest.
    · rename_i hx
      have hrest : ∀ q ∈ selectDisjoint (x :: taken) rest, rank x < rank q :=
        fun q hq => hs.1 q ((selectDisjoint_sublist _ _).subset hq)
      have hany : (x :: taken).any p.overlaps = false ↔ p.overlaps x = false ∧ taken.any p.overlaps = false := by
        rw [List.any_cons, Bool.or_eq_false_iff]
      rw [List.mem_cons, List.mem_cons, List.forall_mem_cons, ih hs.2, hany]
      constructor
      · rintro (rfl | ⟨hp, ⟨hpx, ht⟩, hall⟩)
        · refine ⟨.inl rfl, Bool.eq_false_iff.2 hx, fun h => absurd h (lt_irrefl _), fun q hq h => ?_⟩
          exact absurd h (hrest q hq).not_gt
        · exact ⟨.inr hp, ht, fun _ => hpx, hall⟩
      · rintro ⟨rfl | hp, ht, hpx, hall⟩
        · exact .inl rfl
        · exact .inr ⟨hp, ⟨hpx (hs.1 p hp), ht⟩, hall⟩

/-- Of the eligible pairs, ranked, those that a greedy pass takes, ascending. -/
def choosePairs (eligible : Pair n → Bool) (isOutranked : Pair n → Pair n → Bool) : List (Pair n) :=
  ranked Pair.isAfter (selectDisjoint [] (ranked isOutranked ((Pair.all n).filter eligible)))

theorem choosePairs_ascending (eligible : Pair n → Bool) (isOutranked : Pair n → Pair n → Bool) :
    ((choosePairs eligible isOutranked).map Pair.positions).Pairwise Precedes := by
  have hi : Function.Injective fun p : Pair n => toLex p.positions := toLex.injective.comp Pair.positions_injective
  have hn : (selectDisjoint [] (ranked isOutranked ((Pair.all n).filter eligible))).Nodup :=
    (selectDisjoint_sublist [] _).nodup ((ranked_perm isOutranked _).nodup_iff.2 (Pair.nodup_all.filter eligible))
  refine List.pairwise_map.2 ((pairwise_lt_ranked hi hn fun p _ q _ => ?_).imp precedes_iff.2)
  rw [Pair.isAfter_iff, precedes_iff]

/-- The greedy pass makes a stable choice. -/
theorem choosePairs_stable {eligible : Pair n → Bool} {isOutranked : Pair n → Pair n → Bool}
    (hr : Function.Injective rank)
    (hk : ∀ p q, eligible p = true → eligible q = true → (isOutranked p q = true ↔ rank q < rank p)) :
    IsStable (eligible · = true) (rank · < rank ·) (fun q p => Meets q.positions p.positions)
      (· ∈ choosePairs eligible isOutranked) := by
  have hs : (ranked isOutranked ((Pair.all n).filter eligible)).Pairwise (rank · < rank ·) := by
    refine pairwise_lt_ranked hr (Pair.nodup_all.filter eligible) fun p hp q hq => ?_
    exact hk p q (List.mem_filter.1 hp).2 (List.mem_filter.1 hq).2
  have hc : ∀ p, p ∈ choosePairs eligible isOutranked ↔
      p ∈ selectDisjoint [] (ranked isOutranked ((Pair.all n).filter eligible)) := fun p => mem_ranked
  intro p
  simp only [hc]
  rw [mem_selectDisjoint hs, mem_ranked, List.mem_filter]
  simp only [Pair.mem_all, true_and, List.any_nil, ← Pair.overlaps_iff, Bool.not_eq_true]

end Greedy

end CallOrder
