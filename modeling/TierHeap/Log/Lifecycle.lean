import TierHeap.Log.Fifo
import TierHeap.Log.Level
import TierHeap.Text.Digits
import TierHeap.Tier

/-!
# The lifecycle log

A bounded buffer of records.  Records below the threshold are refused; the others get the
decision numbers 1, 2, 3 and so on, and a trace that names the entry point and the number.
When the buffer is full, the oldest record makes room and is counted as dropped.
-/

namespace TierHeap.Log

/-- What happened, before a number and the gauges are attached. -/
structure Event where
  /-- The entry point. -/
  symbol : String
  /-- The kind of event. -/
  event : String
  /-- What came of it. -/
  outcome : String
  addr : Option Nat
  size : Option Nat
  tier : Option Tier
  details : String
  deriving DecidableEq, Repr

namespace Event

def new
    (symbol event outcome : String) : Event :=
  ⟨symbol, event, outcome, none, none, none, ""⟩

def withAddr
    (event : Event)
    (addr : Nat) : Event :=
  { event with addr := some addr }

def withSize
    (event : Event)
    (size : Nat) : Event :=
  { event with size := some size }

def withTier
    (event : Event)
    (tier : Tier) : Event :=
  { event with tier := some tier }

def withDetails
    (event : Event)
    (details : String) : Event :=
  { event with details := details }

end Event

/-- A record of the log: an event with its number, its level and the gauges at that time. -/
structure Record where
  decisionId : Nat
  level : Level
  event : Event
  liveBlocks : Nat
  outstandingBytes : Nat
  deriving DecidableEq, Repr

/-- The trace of a record: the entry point and the decision number in sixteen digits. -/
def Record.traceId (record : Record) : String :=
  "core::tiermem::" ++ record.event.symbol ++ "::" ++ Text.hexPadded 16 record.decisionId

structure Lifecycle where
  /-- The least level that is recorded; `none` records nothing. -/
  threshold : Option Level
  /-- How many records are kept, at least one. -/
  capacity : Nat
  /-- The number the next record gets. -/
  nextId : Nat
  /-- How many records have made room for newer ones. -/
  dropped : Nat
  buffer : Fifo Record
  deriving DecidableEq, Repr

namespace Lifecycle

/-- A log without records; a capacity of zero counts as one. -/
def new
    (threshold : Option Level)
    (capacity : Nat) : Lifecycle :=
  ⟨threshold, max capacity 1, 1, 0, .empty⟩

def enabled
    (log : Lifecycle)
    (level : Level) : Bool :=
  match log.threshold with
  | none => false
  | some least => level.atLeast least

/-- Put a record into the buffer, dropping the oldest one if the buffer is full. -/
def append
    (log : Lifecycle)
    (record : Record) : Lifecycle :=
  if log.buffer.size = log.capacity then
    { log with buffer := log.buffer.dropOldest.push record, dropped := log.dropped + 1 }
  else
    { log with buffer := log.buffer.push record }

/-- Record an event; the first result is its number, or `none` if it is refused. -/
def record
    (log : Lifecycle)
    (level : Level)
    (event : Event)
    (liveBlocks outstandingBytes : Nat) : Option Nat × Lifecycle :=
  if log.enabled level then
    let entry : Record := ⟨log.nextId, level, event, liveBlocks, outstandingBytes⟩
    (some log.nextId, { log with nextId := log.nextId + 1 }.append entry)
  else
    (none, log)

def snapshot (log : Lifecycle) : List Record :=
  log.buffer.toList

def drain (log : Lifecycle) : List Record × Lifecycle :=
  (log.snapshot, { log with buffer := .empty })

end Lifecycle

end TierHeap.Log
