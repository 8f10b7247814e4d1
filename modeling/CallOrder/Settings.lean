import CallOrder.Error
import CallOrder.Morphemes

/-! The settings of a check, and which of them are valid. -/
namespace CallOrder

/-- The greatest margin that a pair of positions can have. -/
def maxMargin : Float := 2

/-- Whether a threshold can tell calls apart: it is finite, positive, and within reach. -/
def isMargin (x : Float) : Bool := x.isFinite && !(x ≤ 0) && !(maxMargin < x)

/-- Accepts a threshold that is a margin. -/
def checkMargin (x : Float) : Except Error Unit :=
  if isMargin x then .ok () else .error (.threshold x)

/-- Accepts a number that is not zero. -/
def checkPositive (field : String) (n : Nat) : Except Error Unit :=
  if n = 0 then .error (.validation (field ++ " must be greater than 0") (some field)) else .ok ()

/-- Accepts a number within bounds. -/
def checkBounds (field : String) (low high n : Nat) : Except Error Unit :=
  if n < low || high < n then
    let bounds := String.ofList (Decimal.digitsOf low) ++ " and " ++ String.ofList (Decimal.digitsOf high)
    .error (.validation (field ++ " must be between " ++ bounds) (some field))
  else .ok ()

/-- Accepts a policy whose least length is within bounds and whose stop tokens are not empty. -/
def MorphemePolicy.check (policy : MorphemePolicy) : Except Error Unit := do
  checkBounds "morphemes.min_token_len" 1 64 policy.minTokenLength.toNat
  match policy.stopTokens.find? (· = "") with
  | some token =>
    throw (.validation ("stop token " ++ Text.quoted token ++ " must not be empty")
      (some "morphemes.stop_tokens"))
  | none => return ()

/-- All settings. -/
structure Settings where
  policy : MorphemePolicy := {}
  /-- The margin from which a pair is reported. -/
  threshold : Float := 1.2
  /-- How many calls may be checked at a time; it does not change what is found. -/
  maxThreads : Option UInt64 := none
deriving DecidableEq, Inhabited

namespace Settings

/-- Accepts valid settings. Of several faults the first in the order of the settings counts. -/
def check (settings : Settings) : Except Error Unit := do
  settings.policy.check
  checkMargin settings.threshold
  match settings.maxThreads with
  | none => return ()
  | some threads =>
    match checkPositive "scan.max_threads" threads.toNat with
    | .ok _ => return ()
    | .error error =>
      throw (.settings ("Invalid scan configuration: " ++ error.message) (some "scan"))

/-- The default settings are valid. -/
theorem check_default : ({} : Settings).check = .ok () := by
  have h : isMargin 1.2 = true := by decide +kernel
  simp [check, MorphemePolicy.check, checkBounds, checkMargin, h, bind, Except.bind, pure, Except.pure]

/-- The same settings with another threshold. -/
def withThreshold (settings : Settings) (threshold : Float) : Settings := { settings with threshold }

end Settings

end CallOrder
