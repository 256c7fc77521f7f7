import TierHeap.Arena.Allocator
import TierHeap.BlockTable
import TierHeap.Log.Lifecycle
import TierHeap.Metrics
import TierHeap.Mode

/-!
# The engine

An engine owns an allocator for each tier, the mode register, the block table, the metrics
and the lifecycle log.  A call is a short sequence of steps on these parts; each step here
changes the parts it names and leaves the others as they are.
-/

namespace TierHeap

structure Engine (β : Type) where
  config : Config
  mode : ModeRegister
  tiers : PerTier (Allocator β)
  table : BlockTable
  metrics : Metrics
  log : Log.Lifecycle

namespace Engine

variable {β : Type}

/-- The number of engine calls open while the engine asks a backend. -/
abbrev depth : Nat := 1

abbrev outside : Nat := 0

/-- Record an event with the gauges of the moment, if its level passes the threshold. -/
def note
    (engine : Engine β)
    (level : Log.Level)
    (event : Log.Event) : Engine β :=
  { engine with
    log :=
      (engine.log.record level event engine.metrics.liveBlocks
        engine.metrics.outstandingBytes).2 }

def carve
    [Backend β]
    (engine : Engine β)
    (tier : Tier)
    (reserved align : Nat) : Except GrowError Carve × Engine β :=
  let (answer, allocator) := (engine.tiers.get tier).allocate depth reserved align
  (answer, { engine with tiers := engine.tiers.set tier allocator })

def giveBack
    (engine : Engine β)
    (block : Block) : Engine β :=
  { engine with
    tiers := engine.tiers.modify block.tier fun allocator =>
      allocator.free block.addr block.reserved }

/-- Enter a block into the table; the first result is the block it displaced, if any. -/
def publish
    (engine : Engine β)
    (block : Block) : Option Block × Engine β :=
  let (displaced, table) := engine.table.insert block
  (displaced, { engine with table := table })

/-- Take a block out of the table, if there is one at the address. -/
def withdraw
    (engine : Engine β)
    (addr : Nat) : Option Block × Engine β :=
  let (block, table) := engine.table.remove addr
  (block, { engine with table := table })

def count
    (engine : Engine β)
    (change : Metrics → Metrics) : Engine β :=
  { engine with metrics := change engine.metrics }

/-- An engine over two backends, which notes that it is ready. -/
def withBackends
    [Backend β]
    (config : Config)
    (bank : RegisterBank)
    (backends : PerTier β) : Engine β × RegisterBank :=
  let (mode, bank) := bank.create config.scope
  let allocator (tier : Tier) : Allocator β :=
    .new tier (backends.get tier) (config.tiers.get tier).capacity config.segmentSize
  let engine : Engine β :=
    { config := config
      mode := mode
      tiers := .ofFn allocator
      table := .empty
      metrics := .zero
      log := .new config.threshold config.logCapacity }
  let details :=
    "scope=" ++ config.scope.label ++ " host=" ++ Backend.describe backends.host ++
      " cxl=" ++ Backend.describe backends.cxl
  (engine.note .info ((Log.Event.new "init" "engine_ready" "ready").withDetails details), bank)

/-- The CXL tier is mapped without a node, so its memory may be anywhere. -/
def cxlUnbound (config : Config) : Bool :=
  config.backend == .mmap && config.tiers.cxl.node.isNone

/-- An engine over the backends that its configuration selects.  It warns if the CXL tier is
mapped without a node. -/
def ofConfig
    [Backend β]
    (source : Config → Tier → β)
    (config : Config)
    (bank : RegisterBank) : Engine β × RegisterBank :=
  let (engine, bank) := withBackends config bank (.ofFn (source config))
  if cxlUnbound config then
    (engine.note .warn
      (((Log.Event.new "init" "cxl_node_unset" "unbound").withTier .cxl).withDetails
        "cxl segments use the local placement policy"),
     bank)
  else
    (engine, bank)

/-- Drop an engine: its register retires and every segment goes back to its backend. -/
def close
    [Backend β]
    (engine : Engine β)
    (bank : RegisterBank) : PerTier β × RegisterBank :=
  (.ofFn fun tier => (engine.tiers.get tier).close outside, bank.retire engine.mode)

end Engine

end TierHeap
