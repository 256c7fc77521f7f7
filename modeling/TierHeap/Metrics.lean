import TierHeap.Tier
import TierHeap.Word

/-!
# Metrics

Counters and gauges of an engine, per tier and in all.  All of them are machine words that
wrap around.
-/

namespace TierHeap

/-- The counters of one tier.  `liveBlocks` and `outstandingBytes` are gauges. -/
structure TierCounters where
  allocations : Nat
  frees : Nat
  liveBlocks : Nat
  outstandingBytes : Nat
  outOfMemory : Nat
  arenaGrowths : Nat
  deriving DecidableEq, Repr, Inhabited

structure Metrics where
  tiers : PerTier TierCounters
  unknownFrees : Nat
  invalidRequests : Nat
  resizesInPlace : Nat
  trims : Nat
  deriving DecidableEq, Repr, Inhabited

namespace TierCounters

def zero : TierCounters :=
  ⟨0, 0, 0, 0, 0, 0⟩

def countAllocation
    (counters : TierCounters)
    (size : Nat)
    (grew : Bool) : TierCounters :=
  { counters with
    allocations := Word.add counters.allocations 1
    liveBlocks := Word.add counters.liveBlocks 1
    outstandingBytes := Word.add counters.outstandingBytes (Word.wrap size)
    arenaGrowths := if grew then Word.add counters.arenaGrowths 1 else counters.arenaGrowths }

def countFree
    (counters : TierCounters)
    (size : Nat) : TierCounters :=
  { counters with
    frees := Word.add counters.frees 1
    liveBlocks := Word.sub counters.liveBlocks 1
    outstandingBytes := Word.sub counters.outstandingBytes (Word.wrap size) }

/-- Move the gauge of outstanding bytes from an old size to a new one. -/
def countResize
    (counters : TierCounters)
    (oldSize newSize : Nat) : TierCounters :=
  { counters with
    outstandingBytes :=
      if oldSize ≤ newSize then Word.add counters.outstandingBytes (newSize - oldSize)
      else Word.sub counters.outstandingBytes (oldSize - newSize) }

def countOutOfMemory (counters : TierCounters) : TierCounters :=
  { counters with outOfMemory := Word.add counters.outOfMemory 1 }

end TierCounters

namespace Metrics

def zero : Metrics :=
  ⟨.both .zero, 0, 0, 0, 0⟩

def onAllocate
    (metrics : Metrics)
    (tier : Tier)
    (size : Nat)
    (grew : Bool) : Metrics :=
  { metrics with tiers := metrics.tiers.modify tier (·.countAllocation size grew) }

def onFree
    (metrics : Metrics)
    (tier : Tier)
    (size : Nat) : Metrics :=
  { metrics with tiers := metrics.tiers.modify tier (·.countFree size) }

def onResize
    (metrics : Metrics)
    (tier : Tier)
    (oldSize newSize : Nat) : Metrics :=
  { metrics with
    tiers := metrics.tiers.modify tier (·.countResize oldSize newSize)
    resizesInPlace := Word.add metrics.resizesInPlace 1 }

def onOutOfMemory
    (metrics : Metrics)
    (tier : Tier) : Metrics :=
  { metrics with tiers := metrics.tiers.modify tier (·.countOutOfMemory) }

def onUnknownFree (metrics : Metrics) : Metrics :=
  { metrics with unknownFrees := Word.add metrics.unknownFrees 1 }

def onInvalidRequest (metrics : Metrics) : Metrics :=
  { metrics with invalidRequests := Word.add metrics.invalidRequests 1 }

def onResizeCall (metrics : Metrics) : Metrics :=
  { metrics with resizesInPlace := Word.add metrics.resizesInPlace 1 }

def onTrim (metrics : Metrics) : Metrics :=
  { metrics with trims := Word.add metrics.trims 1 }

def liveBlocks (metrics : Metrics) : Nat :=
  Word.add metrics.tiers.host.liveBlocks metrics.tiers.cxl.liveBlocks

def outstandingBytes (metrics : Metrics) : Nat :=
  Word.add metrics.tiers.host.outstandingBytes metrics.tiers.cxl.outstandingBytes

end Metrics

end TierHeap
