import TierHeap.Config.Lookup
import TierHeap.Failure
import TierHeap.Json.Basic

/-!
# Reports on failures

A failure is reported as an object with the name of its kind and its wording.
-/

namespace TierHeap.Report

def failure (name message : String) : Json :=
  .object [("error", .string name), ("message", .string message)]

def requestError (err : RequestError) : Json :=
  failure err.name err.message

def backendError (err : BackendError) : Json :=
  failure err.name err.message

def growError (err : GrowError) : Json :=
  failure err.name err.message

def violation (err : InvariantViolation) : Json :=
  failure err.name err.message

/-- A refused setting, with its key, its value and the tier that the key belongs to. -/
def settingError (err : SettingError) : Json :=
  .object
    [("error", .string err.name), ("message", .string err.message), ("key", .string err.key),
     ("value", .string err.value),
     ("tier", Json.ofOption (fun tier => .string tier.name) err.tier?)]

/-- The cause of the early end of a command; what has no particulars is its own cause. -/
def cause : Failure → Json
  | .allocation err => requestError err
  | .invariant err => violation err
  | .setting err => settingError err
  | err => failure err.name err.message

/-- A value, or why there is none. -/
def result
    {ε α : Type}
    (failed : ε → Json)
    (encode : α → Json) : Except ε α → Json
  | .ok value => encode value
  | .error err => failed err

end TierHeap.Report
