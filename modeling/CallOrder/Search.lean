import CallOrder.Call
import CallOrder.Ranking
import CallOrder.Similarity
import CallOrder.Swap

/-! The search for swapped arguments. For each pair of positions it compares the call as it is
written with the call in which the two arguments are exchanged; of the pairs that gain enough, the
best are reported, no position twice. -/
namespace CallOrder

/-- Two positions of a call, the first before the second. -/
@[ext]
structure Pair (n : Nat) where
  first : Fin n
  second : Fin n
  first_lt_second : first < second
deriving DecidableEq

namespace Pair

/-- All pairs, ascending. -/
def all (n : Nat) : List (Pair n) :=
  (List.finRange n).flatMap fun i => (List.finRange n).filterMap fun j =>
    if h : i < j then some ⟨i, j, h⟩ else none

/-- Whether two pairs share a position. -/
def overlaps {n : Nat} (p q : Pair n) : Bool :=
  p.first == q.first || p.first == q.second || p.second == q.first || p.second == q.second

/-- Whether a pair comes after another by its first position, then by its second. -/
def isAfter {n : Nat} (p q : Pair n) : Bool :=
  q.first < p.first || p.first == q.first && q.second < p.second

end Pair

namespace ScoreMatrix

/-- The similarity that the call has at the two positions as it is written. -/
def baseline (m : ScoreMatrix) (p : Pair m.size) : Float :=
  m.score p.first p.first + m.score p.second p.second

/-- The similarity that it would have there with the arguments exchanged. -/
def crossed (m : ScoreMatrix) (p : Pair m.size) : Float :=
  m.score p.first p.second + m.score p.second p.first

/-- What the exchange gains. -/
def margin (m : ScoreMatrix) (p : Pair m.size) : Float := m.crossed p - m.baseline p

/-- Whether one of the two names says something about the place of the other. -/
def isRelated (m : ScoreMatrix) (p : Pair m.size) : Bool :=
  !(m.score p.first p.second == 0 && m.score p.second p.first == 0)

/-- Whether a pair may be reported: its names are related, and the exchange gains enough. -/
def isEligible (m : ScoreMatrix) (threshold : Float) (p : Pair m.size) : Bool :=
  m.isRelated p && threshold ≤ m.margin p

/-- Whether another pair outranks this one: it gains more, or as much and stands before it. -/
def isOutranked (m : ScoreMatrix) (p q : Pair m.size) : Bool :=
  m.margin p < m.margin q || m.margin p == m.margin q && p.isAfter q

/-- The pairs that may be reported, the best first. -/
def rankedPairs (m : ScoreMatrix) (threshold : Float) : List (Pair m.size) :=
  ranked m.isOutranked ((Pair.all m.size).filter (m.isEligible threshold))

end ScoreMatrix

/-- Goes through the pairs in order and takes each one that shares no position with those taken
before. -/
def selectDisjoint {n : Nat} (taken : List (Pair n)) : List (Pair n) → List (Pair n)
  | [] => []
  | p :: rest =>
    if taken.any p.overlaps then selectDisjoint taken rest else p :: selectDisjoint (p :: taken) rest

/-- The swap at a pair of positions. -/
def ScoreMatrix.swapAt (m : ScoreMatrix) (arguments : List MorphemeSet) (p : Pair m.size) : Swap where
  first := p.first + 1
  second := p.second + 1
  firstMorphemes := arguments[p.first.val]?.getD ∅
  secondMorphemes := arguments[p.second.val]?.getD ∅
  score := m.margin p

/-- The pairs that are reported, ascending. -/
def ScoreMatrix.selectedPairs (m : ScoreMatrix) (threshold : Float) : List (Pair m.size) :=
  ranked Pair.isAfter (selectDisjoint [] (m.rankedPairs threshold))

/-- The swapped arguments of a call. A call of an unknown function, and one with fewer than two
scored positions, has none. -/
def search (signature : Signature) (site : CallSite) (threshold : Float) (policy : MorphemePolicy) :
    Findings :=
  let range := signature.scoredRange site
  let arguments := site.morphemes range policy
  let m := ScoreMatrix.ofSets (signature.morphemes range policy) arguments
  ⟨(m.selectedPairs threshold).map (m.swapAt arguments)⟩

end CallOrder
