import TierHeap.Churn.Run
import TierHeap.Report.Engine

/-!
# Reports on a churn

The forms in which the parameters and the result of a churn are written as JSON objects.
-/

namespace TierHeap.Report

def churnPlan (plan : Churn.Plan) : Json :=
  .object
    [("threads", .nat plan.threads), ("ops_per_thread", .nat plan.opsPerThread),
     ("max_size", .nat plan.maxSize), ("cxl_percent", .nat plan.cxlPercent),
     ("max_live_per_thread", .nat plan.maxLivePerThread), ("seed", .nat plan.seed.toNat)]

def churnTally
    (of : Tier)
    (tally : Churn.TierTally) : Json :=
  .object
    [("tier", tier of), ("allocations", .nat tally.allocations), ("frees", .nat tally.frees),
     ("out_of_memory", .nat tally.outOfMemory)]

def churnSummary (summary : Churn.Summary) : Json :=
  .object
    [("config", churnPlan summary.plan), ("scope", .string summary.scope.name),
     ("elapsed_ms", .nat summary.elapsedMs),
     ("tiers", Json.ofList (fun of => churnTally of (summary.tiers.get of)) Tier.all),
     ("tier_mismatches", .nat summary.tierMismatches),
     ("unknown_frees", .nat summary.unknownFrees),
     ("sum_of_worker_peaks", .nat summary.sumOfWorkerPeaks),
     ("engine", engineStats summary.engine)]

end TierHeap.Report
