import TierHeap.Json.Printer
import TierHeap.Json.Reader
import TierHeap.Log.Lifecycle
import TierHeap.Timestamp

/-!
# Journal entries

An entry is one line of a structured log: four fields that are always there and others that
may be absent.  `toJson` gives it as an object with its fields in order, without the absent
ones; `ofJson?` reads an object in dictionary form back, in any order of fields, where null
stands for an absent field and unknown fields are ignored.
-/

namespace TierHeap.Journal

structure Entry where
  timestamp : String
  traceId : String
  level : Log.Level
  event : String
  runId : Option String
  decisionId : Option Nat
  symbol : Option String
  tier : Option Tier
  mode : Option Tier
  addr : Option String
  size : Option Nat
  outcome : Option String
  liveBlocks : Option Nat
  outstandingBytes : Option Nat
  durationMs : Option Nat
  artifactRefs : Option (List String)
  details : Option Json

namespace Entry

def new
    (now : Instant)
    (traceId : String)
    (level : Log.Level)
    (event : String) : Entry where
  timestamp := Timestamp.ofInstant now
  traceId := traceId
  level := level
  event := event
  runId := none
  decisionId := none
  symbol := none
  tier := none
  mode := none
  addr := none
  size := none
  outcome := none
  liveBlocks := none
  outstandingBytes := none
  durationMs := none
  artifactRefs := none
  details := none

def ofRecord
    (now : Instant)
    (record : Log.Record) : Entry :=
  { new now record.traceId record.level record.event.event with
    decisionId := some record.decisionId
    symbol := some record.event.symbol
    outcome := some record.event.outcome
    tier := record.event.tier
    addr := record.event.addr.map Text.address
    size := record.event.size
    liveBlocks := some record.liveBlocks
    outstandingBytes := some record.outstandingBytes
    details := if record.event.details = "" then none else some (.string record.event.details) }

def tierJson (tier : Tier) : Json :=
  .string tier.name

def field
    {α : Type}
    (key : String)
    (encode : α → Json) : Option α → List (String × Json)
  | none => []
  | some value => [(key, encode value)]

def members (entry : Entry) : List (String × Json) :=
  [("timestamp", .string entry.timestamp), ("trace_id", .string entry.traceId),
   ("level", .string entry.level.name), ("event", .string entry.event)] ++
    field "run_id" .string entry.runId ++ field "decision_id" .nat entry.decisionId ++
    field "symbol" .string entry.symbol ++ field "tier" tierJson entry.tier ++
    field "mode" tierJson entry.mode ++ field "addr" .string entry.addr ++
    field "size" .nat entry.size ++ field "outcome" .string entry.outcome ++
    field "live_blocks" .nat entry.liveBlocks ++
    field "outstanding_bytes" .nat entry.outstandingBytes ++
    field "duration_ms" .nat entry.durationMs ++
    field "artifact_refs" (Json.ofList .string) entry.artifactRefs ++
    field "details" id entry.details

def toJson (entry : Entry) : Json :=
  .object entry.members

def line (entry : Entry) : String :=
  entry.toJson.compact

/-- A label is written as a string, or as an object with the label as its only key and null
as the value. -/
def label? : Json → Option String
  | .string text => some text
  | .object [(key, .null)] => some key
  | _ => none

def level? (value : Json) : Option Log.Level :=
  (label? value).bind Log.Level.ofName?

def tier? (value : Json) : Option Tier :=
  (label? value).bind Tier.ofName?

def strings? (value : Json) : Option (List String) :=
  value.items?.bind fun items => items.mapM Json.string?

def required?
    {α : Type}
    (members : List (String × Json))
    (key : String)
    (decode : Json → Option α) : Option α :=
  (members.lookup key).bind decode

/-- Read a field that may be absent or null; `none` if it is neither and cannot be read. -/
def optional?
    {α : Type}
    (members : List (String × Json))
    (key : String)
    (decode : Json → Option α) : Option (Option α) :=
  match members.lookup key with
  | none => some none
  | some .null => some none
  | some value => (decode value).map some

/-- Read an entry from the members of an object in dictionary form. -/
def ofMembers? (members : List (String × Json)) : Option Entry := do
  let timestamp ← required? members "timestamp" Json.string?
  let traceId ← required? members "trace_id" Json.string?
  let level ← required? members "level" level?
  let event ← required? members "event" Json.string?
  let runId ← optional? members "run_id" Json.string?
  let decisionId ← optional? members "decision_id" Json.nat?
  let symbol ← optional? members "symbol" Json.string?
  let tier ← optional? members "tier" tier?
  let mode ← optional? members "mode" tier?
  let addr ← optional? members "addr" Json.string?
  let size ← optional? members "size" Json.nat?
  let outcome ← optional? members "outcome" Json.string?
  let liveBlocks ← optional? members "live_blocks" Json.nat?
  let outstandingBytes ← optional? members "outstanding_bytes" Json.nat?
  let durationMs ← optional? members "duration_ms" Json.nat?
  let artifactRefs ← optional? members "artifact_refs" strings?
  let details ← optional? members "details" some
  return { timestamp, traceId, level, event, runId, decisionId, symbol, tier, mode, addr, size,
           outcome, liveBlocks, outstandingBytes, durationMs, artifactRefs, details }

end Entry

end TierHeap.Journal
