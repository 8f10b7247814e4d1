import CallOrder.Identifier

/-! Morphemes: the tokens of an identifier that say something about what it names, as a set. -/
namespace CallOrder

/-- A finite set of morphemes, listed in ascending order without repetition. -/
@[ext]
structure MorphemeSet where
  toList : List String
  ascending : toList.Pairwise (· < ·)
deriving DecidableEq

namespace MorphemeSet

/-- The set without members. -/
def empty : MorphemeSet := ⟨[], .nil⟩

instance : EmptyCollection MorphemeSet := ⟨empty⟩

instance : Inhabited MorphemeSet := ⟨empty⟩

instance : Membership String MorphemeSet := ⟨fun s m => m ∈ s.toList⟩

/-- Puts a morpheme into its place in an ascending list, unless it is there. -/
def insertAscending (m : String) : List String → List String
  | [] => [m]
  | x :: rest =>
    if m < x then m :: x :: rest
    else if x < m then x :: insertAscending m rest
    else x :: rest

theorem mem_insertAscending {m y : String} {xs : List String} :
    y ∈ insertAscending m xs ↔ y = m ∨ y ∈ xs := by
  induction xs with
  | nil => simp [insertAscending]
  | cons x rest ih =>
    unfold insertAscending
    split
    · simp
    · split
      · simp [ih, or_left_comm]
      · have : m = x := String.le_antisymm (String.not_lt.1 ‹_›) (String.not_lt.1 ‹_›)
        simp [this]

theorem pairwise_insertAscending {m : String} {xs : List String} (h : xs.Pairwise (· < ·)) :
    (insertAscending m xs).Pairwise (· < ·) := by
  induction xs with
  | nil => simp [insertAscending]
  | cons x rest ih =>
    rw [List.pairwise_cons] at h
    unfold insertAscending
    split
    · rename_i hm
      simp only [List.pairwise_cons, List.mem_cons, forall_eq_or_imp]
      exact ⟨⟨hm, fun y hy => String.lt_trans hm (h.1 y hy)⟩, h⟩
    · split
      · rename_i hx
        simp only [List.pairwise_cons, mem_insertAscending, forall_eq_or_imp]
        exact ⟨⟨hx, h.1⟩, ih h.2⟩
      · exact List.pairwise_cons.2 h

/-- Adds a morpheme to a set. -/
def insert (m : String) (s : MorphemeSet) : MorphemeSet :=
  ⟨insertAscending m s.toList, pairwise_insertAscending s.ascending⟩

/-- The set of the members of a list. -/
def ofList (ms : List String) : MorphemeSet := ms.foldr insert empty

/-- Whether the set has no member. -/
def isEmpty (s : MorphemeSet) : Bool := s.toList.isEmpty

/-- The number of members. -/
def card (s : MorphemeSet) : Nat := s.toList.length

/-- The number of members that two sets share. -/
def sharedCount (s t : MorphemeSet) : Nat := s.toList.countP fun m => t.toList.contains m

@[simp]
theorem mem_insert {m y : String} {s : MorphemeSet} : y ∈ s.insert m ↔ y = m ∨ y ∈ s :=
  mem_insertAscending

@[simp]
theorem mem_ofList {y : String} {ms : List String} : y ∈ ofList ms ↔ y ∈ ms := by
  induction ms with
  | nil => exact ⟨fun h => (List.not_mem_nil h).elim, fun h => (List.not_mem_nil h).elim⟩
  | cons m rest ih => simp [ofList, List.foldr, ← ih]

end MorphemeSet

/-- Which tokens count as morphemes. -/
structure MorphemePolicy where
  /-- Tokens with fewer characters are dropped. -/
  minTokenLength : UInt64 := 1
  /-- Whether tokens that consist of digits only are kept. -/
  keepNumericTokens : Bool := false
  /-- Tokens that say nothing about what a name stands for, in any spelling of ASCII case. -/
  stopTokens : List String := ["a", "an", "the", "of", "and", "or"]
deriving DecidableEq, Repr

instance : Inhabited MorphemePolicy := ⟨{}⟩

/-- The lowercase form of an ASCII letter; any other character stays. -/
def Text.asciiLower (c : Char) : Char := if 'A' ≤ c && c ≤ 'Z' then Char.ofNat (c.toNat + 32) else c

/-- Whether two texts are the same but for the case of ASCII letters. -/
def Text.sameButAsciiCase (s t : String) : Bool :=
  s.toList.map asciiLower == t.toList.map asciiLower

namespace MorphemePolicy

/-- Whether a token counts. -/
def keeps (policy : MorphemePolicy) (token : String) : Bool :=
  policy.minTokenLength.toNat ≤ token.toList.length &&
  (policy.keepNumericTokens || !token.toList.all Text.isNumeric) &&
  !policy.stopTokens.any fun stop => Text.sameButAsciiCase stop token

/-- The morphemes of a name. -/
def morphemes (policy : MorphemePolicy) (name : String) : MorphemeSet :=
  .ofList ((Identifier.tokens name).filter policy.keeps)

/-- The morphemes of a name that is given in components, such as a member access. -/
def morphemesOfAll (policy : MorphemePolicy) (components : List String) : MorphemeSet :=
  .ofList (components.flatMap fun name => (policy.morphemes name).toList)

end MorphemePolicy

end CallOrder
