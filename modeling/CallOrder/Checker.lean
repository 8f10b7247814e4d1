import CallOrder.Search
import CallOrder.Settings

/-! Checking calls under valid settings. -/
namespace CallOrder

/-- Settings that were accepted once, so that no check can fail for them later. -/
structure Checker where
  settings : Settings
  accepted : settings.check = .ok ()

namespace Checker

/-- The checker of these settings, if they are valid. -/
def ofSettings (settings : Settings) : Except Error Checker :=
  match h : settings.check with
  | .ok () => .ok ⟨settings, h⟩
  | .error error => .error error

/-- The checker of the default settings. -/
def default : Checker := ⟨{}, Settings.check_default⟩

instance : Inhabited Checker := ⟨default⟩

/-- Checks a call with a threshold of its own. -/
def checkAt (checker : Checker) (threshold : Float) (signature : Signature) (site : CallSite) :
    Except Error Findings := do
  checkMargin threshold
  if site.isEmpty then return {}
  return search signature site threshold checker.settings.policy

/-- Checks a call with the threshold of the settings. -/
def checkSite (checker : Checker) (signature : Signature) (site : CallSite) :
    Except Error Findings :=
  checker.checkAt checker.settings.threshold signature site

/-- Checks a call that is given by plain names. -/
def checkNames (checker : Checker) (parameters : Option (List String)) (arguments : List String)
    (callee : Option String) (isVariadic : Bool) : Except Error Findings :=
  checker.checkSite { callee, parameters, isVariadic } (.ofNames arguments)

end Checker

end CallOrder
