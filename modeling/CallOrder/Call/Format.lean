import CallOrder.Call
import CallOrder.Json.Format

/-! How calls are written in JSON. -/
namespace CallOrder

open Json

/-- A signature; all of it may be unknown. -/
def Signature.format : Format Signature :=
  .record "Signature"
    (.cons "callee" (.optional .text) (.anywhere none)
      (.cons "parameters" (.optional (.list .text)) (.anywhere none)
        (.cons "is_variadic" .flag (.anywhere false) .nil)))
    (fun (callee, parameters, isVariadic, ()) => { callee, parameters, isVariadic })
    (fun signature => (signature.callee, signature.parameters, signature.isVariadic, ()))

/-- An argument is written as the list of its components. -/
def Argument.format : Format Argument := (Format.list .text).via .mk Argument.components

def CallSite.format : Format CallSite :=
  .record "CallSite"
    (.cons "arguments" (.list Argument.format) .refused .nil)
    (fun (arguments, ()) => { arguments })
    (fun site => (site.arguments, ()))

end CallOrder
