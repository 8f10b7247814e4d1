import CallOrder.Morphemes

/-! What a check finds: pairs of arguments that stand in each other's place. -/
namespace CallOrder

/-- Two arguments that look exchanged. -/
structure Swap where
  /-- The position of the first argument, from 1. -/
  first : Nat
  second : Nat
  firstMorphemes : MorphemeSet
  secondMorphemes : MorphemeSet
  /-- How much better the arguments fit when they are exchanged. -/
  score : Float
deriving DecidableEq, Inhabited

/-- Whether one of the two arguments stands at a position. -/
def Swap.touches (swap : Swap) (position : Nat) : Bool :=
  swap.first == position || swap.second == position

/-- The swaps found at one call. -/
structure Findings where
  swaps : List Swap := []
deriving DecidableEq, Inhabited

namespace Findings

/-- Whether nothing was found. -/
def isEmpty (found : Findings) : Bool := found.swaps.isEmpty

/-- The number of swaps. -/
def count (found : Findings) : Nat := found.swaps.length

/-- The positions of each swap. -/
def positions (found : Findings) : List (Nat × Nat) :=
  found.swaps.map fun swap => (swap.first, swap.second)

/-- The larger of two scores; of equal ones the second. -/
def largerScore (x y : Float) : Float := if y < x then x else y

/-- The highest score. -/
def maxScore (found : Findings) : Option Float :=
  match found.swaps with
  | [] => none
  | swap :: rest => some (rest.foldl (fun best next => largerScore best next.score) swap.score)

end Findings

end CallOrder
