import TierHeap.Engine.Basic

/-!
# Engine queries

What an engine reports about itself.  `verify` checks the block table against the tiers'
arenas: no two blocks overlap, every block lies in a segment of its tier, and both sides
agree on the bytes and the number of blocks of each tier.
-/

namespace TierHeap

/-- The figures of an engine at one moment. -/
structure EngineStats where
  mode : Tier
  scope : ModeScope
  indicatorEnabled : Bool
  modeSwitches : Nat
  liveBlocks : Nat
  tiers : PerTier ArenaStats
  metrics : Metrics
  recordsDropped : Nat
  deriving DecidableEq, Repr

namespace Engine

variable {β : Type}

def block?
    (engine : Engine β)
    (addr : Nat) : Option Block :=
  engine.table.get? addr

def ownerOf?
    (engine : Engine β)
    (addr : Nat) : Option Tier :=
  (engine.block? addr).map Block.tier

def owns
    (engine : Engine β)
    (addr : Nat) : Bool :=
  engine.table.contains addr

/-- The bytes usable at an address: all that were set aside for its block. -/
def usableSize
    (engine : Engine β)
    (addr : Nat) : Except RequestError Nat :=
  match engine.block? addr with
  | some block => .ok block.reserved
  | none => .error (.unknownAddress addr)

def liveBlocks (engine : Engine β) : Nat :=
  engine.table.size

def tierStats
    (engine : Engine β)
    (tier : Tier) : ArenaStats :=
  (engine.tiers.get tier).stats

/-- The figures of the engine as a thread that reads the active tier sees them. -/
def stats
    (engine : Engine β)
    (active : Tier) : EngineStats where
  mode := active
  scope := engine.mode.scope
  indicatorEnabled := engine.mode.enabled
  modeSwitches := engine.mode.switches
  liveBlocks := engine.liveBlocks
  tiers := .ofFn engine.tierStats
  metrics := engine.metrics
  recordsDropped := engine.log.dropped

def drainLog (engine : Engine β) : List Log.Record × Engine β :=
  let (records, log) := engine.log.drain
  (records, { engine with log := log })

/-- The block ends no later than the segment of its tier that it starts in. -/
def insideArena
    (engine : Engine β)
    (block : Block) : Bool :=
  match (engine.tiers.get block.tier).segmentOf? block.addr with
  | some segment => Word.add block.addr block.reserved ≤ segment.stop
  | none => false

/-- Check blocks in address order, each against the one before it and its tier's segments,
and count them. -/
def verifyBlocks
    (engine : Engine β) :
    Option Block → PerTier BlockTally → List Block →
      Except InvariantViolation (PerTier BlockTally)
  | _, tallies, [] => .ok tallies
  | previous, tallies, block :: rest =>
      match previous.filter fun held => block.addr < Word.add held.addr held.reserved with
      | some held => .error (.overlap held.addr block.addr)
      | none =>
          if engine.insideArena block then
            engine.verifyBlocks (some block) (tallies.modify block.tier (·.count block)) rest
          else
            .error (.outsideArena block.addr block.tier)

def verifyTier
    (engine : Engine β)
    (tallies : PerTier BlockTally)
    (tier : Tier) : Except InvariantViolation Unit :=
  let stats := engine.tierStats tier
  let tally := tallies.get tier
  if tally.reservedBytes ≠ stats.inUseBytes then
    .error (.bytesMismatch tier tally.reservedBytes stats.inUseBytes)
  else if tally.blocks ≠ stats.liveRanges then
    .error (.countMismatch tier tally.blocks stats.liveRanges)
  else
    .ok ()

def verify (engine : Engine β) : Except InvariantViolation Unit :=
  match engine.verifyBlocks none (.both .zero) engine.table.snapshot with
  | .error violation => .error violation
  | .ok tallies =>
      match engine.verifyTier tallies .host with
      | .error violation => .error violation
      | .ok () => engine.verifyTier tallies .cxl

end Engine

end TierHeap
