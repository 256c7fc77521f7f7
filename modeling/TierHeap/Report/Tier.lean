import TierHeap.Json.Basic
import TierHeap.Log.Level
import TierHeap.Segment
import TierHeap.Tier

/-!
# Reports on tiers, levels and segments

The forms in which the smallest values are written.
-/

namespace TierHeap.Report

def tier (value : Tier) : Json :=
  .string value.name

/-- A tier with its encoding, which is also its place among the tiers, and its names. -/
def tierCard (value : Tier) : Json :=
  .object
    [("tier", tier value), ("raw", .nat value.raw), ("index", .nat value.raw),
     ("name", .string value.name), ("display", .string value.name)]

def level (value : Log.Level) : Json :=
  .string value.name

/-- A threshold: `off`, or a level with the levels that it is at least as important as. -/
def threshold : Option Log.Level → Json
  | none => .string "off"
  | some least =>
      .object
        [("level", level least), ("name", .string least.name),
         ("at_least", Json.ofList (fun other => .bool (least.atLeast other)) Log.Level.all)]

/-- A segment, with which of some addresses lie in it. -/
def segment
    (value : Segment)
    (addrs : List Nat) : Json :=
  .object
    [("base", .nat value.base), ("len", .nat value.len), ("empty", .bool value.isEmpty),
     ("end", .nat value.stop),
     ("contains", Json.ofList (fun addr => .bool (value.contains addr)) addrs)]

end TierHeap.Report
