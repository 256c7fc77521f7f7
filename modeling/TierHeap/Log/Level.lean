import TierHeap.Text.Blank

/-!
# Log levels and thresholds

A threshold is a least level, or off: `none` stands for a log that records nothing.
-/

namespace TierHeap.Log

/-- Levels of lifecycle records, least important first. -/
inductive Level where
  | trace
  | debug
  | info
  | warn
  | error
  deriving DecidableEq, Repr, Inhabited

namespace Level

def all : List Level :=
  [.trace, .debug, .info, .warn, .error]

def rank : Level → Nat
  | .trace => 0
  | .debug => 1
  | .info => 2
  | .warn => 3
  | .error => 4

def atLeast
    (level least : Level) : Bool :=
  least.rank ≤ level.rank

def name : Level → String
  | .trace => "trace"
  | .debug => "debug"
  | .info => "info"
  | .warn => "warn"
  | .error => "error"

def ofName? (s : String) : Option Level :=
  all.find? fun level => level.name == s

/-- Read a threshold as people write it.  `some none` switches the log off. -/
def parseThreshold? (s : String) : Option (Option Level) :=
  let word := Text.keyword s
  if ["trace", "all"].contains word then some (some .trace)
  else if word == "debug" then some (some .debug)
  else if word == "info" then some (some .info)
  else if ["warn", "warning"].contains word then some (some .warn)
  else if word == "error" then some (some .error)
  else if ["off", "none", "0"].contains word then some none
  else none

theorem mem_all (level : Level) : level ∈ all := by
  cases level <;> decide

end Level

end TierHeap.Log
