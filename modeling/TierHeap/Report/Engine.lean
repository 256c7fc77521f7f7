import TierHeap.Engine.Queries
import TierHeap.Report.Config

/-!
# Reports on an engine

The forms in which figures, blocks and records are written as JSON objects, each with its
fields in order.
-/

namespace TierHeap.Report

def arenaStats (stats : ArenaStats) : Json :=
  .object
    [("tier", tier stats.tier), ("capacity", Json.ofOption .nat stats.capacity),
     ("committed_bytes", .nat stats.committedBytes),
     ("peak_committed_bytes", .nat stats.peakCommittedBytes), ("segments", .nat stats.segments),
     ("in_use_bytes", .nat stats.inUseBytes), ("live_ranges", .nat stats.liveRanges),
     ("free_bytes", .nat stats.freeBytes), ("free_ranges", .nat stats.freeRanges),
     ("largest_free_range", .nat stats.largestFreeRange), ("growths", .nat stats.growths),
     ("capacity_failures", .nat stats.capacityFailures),
     ("released_segments", .nat stats.releasedSegments)]

/-- The figures of one tier in short: a list of the ones that calls move most. -/
def arenaFigures (stats : ArenaStats) : Json :=
  Json.ofList .nat
    [stats.committedBytes, stats.segments, stats.inUseBytes, stats.liveRanges, stats.freeBytes,
     stats.freeRanges, stats.largestFreeRange]

/-- The figures of an engine in short, as a thread that reads the active tier sees them. -/
def engineFigures
    {β : Type}
    (engine : Engine β)
    (active : Tier) : Json :=
  .array
    [tier active, .nat engine.liveBlocks, arenaFigures (engine.tierStats .host),
     arenaFigures (engine.tierStats .cxl)]

def carve (value : Carve) : Json :=
  .object
    [("addr", .nat value.addr), ("reserved", .nat value.reserved), ("grew", .bool value.grew)]

/-- What an allocator is for, and what it grows from. -/
def allocatorCard
    {β : Type}
    [Backend β]
    (value : Allocator β) : Json :=
  .object
    [("tier", tier value.tier), ("capacity", Json.ofOption .nat value.capacity),
     ("describe", .string (Backend.describe value.backend))]

def counters
    (of : Tier)
    (value : TierCounters) : Json :=
  .object
    [("tier", tier of), ("allocations", .nat value.allocations), ("frees", .nat value.frees),
     ("live_blocks", .nat value.liveBlocks),
     ("outstanding_bytes", .nat value.outstandingBytes),
     ("out_of_memory", .nat value.outOfMemory), ("arena_growths", .nat value.arenaGrowths)]

def metrics (value : Metrics) : Json :=
  .object
    [("tiers", Json.ofList (fun of => counters of (value.tiers.get of)) Tier.all),
     ("unknown_frees", .nat value.unknownFrees),
     ("invalid_requests", .nat value.invalidRequests),
     ("resizes_in_place", .nat value.resizesInPlace), ("trims", .nat value.trims)]

def engineStats (stats : EngineStats) : Json :=
  .object
    [("mode", tier stats.mode), ("scope", .string stats.scope.name),
     ("explicit_indicator_enabled", .bool stats.indicatorEnabled),
     ("mode_switches", .nat stats.modeSwitches), ("live_blocks", .nat stats.liveBlocks),
     ("tiers", Json.ofList arenaStats stats.tiers.toList), ("metrics", metrics stats.metrics),
     ("log_records_dropped", .nat stats.recordsDropped)]

/-- A block; `address` writes its address. -/
def block
    (address : Nat → Json)
    (value : Block) : Json :=
  .object
    [("addr", address value.addr), ("size", .nat value.size), ("reserved", .nat value.reserved),
     ("tier", tier value.tier)]

def blockTally (tally : BlockTally) : Json :=
  .object
    [("blocks", .nat tally.blocks), ("requested_bytes", .nat tally.requestedBytes),
     ("reserved_bytes", .nat tally.reservedBytes)]

/-- A lifecycle record; `address` writes its address. -/
def record
    (address : Nat → Json)
    (value : Log.Record) : Json :=
  .object
    [("decision_id", .nat value.decisionId), ("trace_id", .string value.traceId),
     ("level", level value.level), ("symbol", .string value.event.symbol),
     ("event", .string value.event.event), ("addr", Json.ofOption address value.event.addr),
     ("size", Json.ofOption .nat value.event.size),
     ("tier", Json.ofOption tier value.event.tier), ("outcome", .string value.event.outcome),
     ("details", .string value.event.details), ("live_blocks", .nat value.liveBlocks),
     ("outstanding_bytes", .nat value.outstandingBytes)]

end TierHeap.Report
