import CallOrder.Decimal.Parts

/-! The shortest decimal that denotes a double-precision number: of the decimals that are nearer to
it than to any other number of that precision, those with the fewest digits, and of these the
nearest. Two may be equally near. -/
namespace CallOrder.Decimal

/-- The decimal `digits * 10 ^ exponent`. -/
structure Scaled where
  digits : Nat
  exponent : Int
deriving DecidableEq, Repr

/-- Which of two neighbouring digits is taken if the number lies half-way between them. -/
inductive Tie where
  | toEven
  | away
deriving DecidableEq, Repr

/-- The neighbour that is taken, of a number and the next one. -/
def Tie.choose : Tie → Nat → Nat
  | .toEven, below => below + below % 2
  | .away, below => below + 1

/-- A grid of decimals `c * 10 ^ ten`, against which multiples of `2 ^ two` are compared: the
decimal `c * 10 ^ ten` lies below `n * 2 ^ two` exactly if `c * unit` is less than `n * scale`. -/
structure Grid where
  ten : Int
  unit : Nat
  scale : Nat

/-- The grid of the multiples of `10 ^ ten`, for comparison with multiples of `2 ^ two`. -/
def Grid.of (ten two : Int) : Grid where
  ten := ten
  unit := Nat.pow 10 ten.toNat * Nat.pow 2 (-two).toNat
  scale := Nat.pow 10 (-ten).toNat * Nat.pow 2 two.toNat

/-- The exponent of the leading digit of `significand * 2 ^ exponent`, for a positive
significand. -/
def leadingExponent (significand : Nat) (exponent : Int) : Int :=
  let num := significand * Nat.pow 2 exponent.toNat
  let den := Nat.pow 2 (-exponent).toNat
  let guess : Int := (Nat.toDigits 10 num).length - (Nat.toDigits 10 den).length
  if num * Nat.pow 10 (-guess).toNat < den * Nat.pow 10 guess.toNat then guess - 1 else guess

/-- The decimals that denote `significand * 2 ^ exponent` lie between these two numbers of quarters
of its last place: half a place away, but only a quarter down if a finer neighbour is below. -/
def quarters (significand : Nat) (exponent : Int) : Nat × Nat :=
  (4 * significand - if significand = hiddenBit && -1074 < exponent then 1 else 2, 4 * significand + 2)

/-- Whether the decimal `c` of a grid denotes the number. The ends of the interval do so if the
significand is even. -/
def Grid.denotes (grid : Grid) (significand : Nat) (exponent : Int) (c : Nat) : Bool :=
  let (low, high) := quarters significand exponent
  if significand % 2 = 0 then low * grid.scale ≤ c * grid.unit && c * grid.unit ≤ high * grid.scale
  else low * grid.scale < c * grid.unit && c * grid.unit < high * grid.scale

/-- The decimal of the grid that denotes the number, the nearer of two. -/
def Grid.nearest? (grid : Grid) (tie : Tie) (significand : Nat) (exponent : Int) : Option Nat :=
  let value := 4 * significand * grid.scale
  let below := value / grid.unit
  match grid.denotes significand exponent below, grid.denotes significand exponent (below + 1) with
  | false, false => none
  | true, false => some below
  | false, true => some (below + 1)
  | true, true =>
    match compare (2 * value) ((2 * below + 1) * grid.unit) with
    | .lt => some below
    | .gt => some (below + 1)
    | .eq => some (tie.choose below)

/-- Takes the trailing zeros off, at most as many as the count says. -/
def Scaled.trim : Nat → Scaled → Scaled
  | 0, d => d
  | count + 1, d => if d.digits % 10 = 0 then trim count ⟨d.digits / 10, d.exponent + 1⟩ else d

/-- The shortest decimal that denotes `significand * 2 ^ exponent`. Seventeen digits are always
enough. -/
def shortest (tie : Tie) (significand : Nat) (exponent : Int) : Scaled :=
  if significand = 0 then ⟨0, 0⟩
  else
    let lead := leadingExponent significand exponent
    let found := (List.range 17).findSome? fun (more : Nat) =>
      let grid := Grid.of (lead - more) (exponent - 2)
      (grid.nearest? tie significand exponent).map fun c => Scaled.mk c grid.ten
    (found.getD ⟨0, 0⟩).trim 17

end CallOrder.Decimal
