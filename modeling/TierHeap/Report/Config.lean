import TierHeap.Backend.System
import TierHeap.Config.Lookup
import TierHeap.Report.Failure
import TierHeap.Report.Tier

/-!
# Reports on configurations

The forms in which a configuration, and the outcome of reading one, are written as JSON
objects, each with its fields in order.
-/

namespace TierHeap.Report

def tierSettings (settings : TierSettings) : Json :=
  .object
    [("capacity", Json.ofOption .nat settings.capacity),
     ("numa_node", Json.ofOption .nat settings.node)]

def config (value : Config) : Json :=
  .object
    [("scope", .string value.scope.name), ("host", tierSettings value.tiers.host),
     ("cxl", tierSettings value.tiers.cxl), ("segment_size", .nat value.segmentSize),
     ("backend", .string value.backend.name),
     ("log_level", Json.ofOption level value.threshold),
     ("log_capacity", .nat value.logCapacity)]

/-- A configuration with the settings of its tiers and the descriptions of the backends that
it selects. -/
def configCard (value : Config) : Json :=
  let describe (tier : Tier) : Json := .string (SystemBackend.ofConfig value tier).describe
  .object
    [("config", config value), ("host", tierSettings value.tiers.host),
     ("cxl", tierSettings value.tiers.cxl), ("describe", Json.ofList describe Tier.all)]

def reading (value : Config.Reading) : Json :=
  .object
    [("config", config value.config), ("rejected", Json.ofList settingError value.rejected)]

def readings (lookup : Lookup) : List (String × Json) :=
  [("strict", result settingError config (Config.ofLookup lookup)),
   ("lenient", reading (Config.ofLookupLenient lookup))]

end TierHeap.Report
