import TierHeap.Config.Lookup
import TierHeap.Engine.Session
import TierHeap.Memory

/-!
# The process engine

A process has one slot for an engine.  It is built from the environment on first use, can be
replaced, and can be taken out and dropped.  A key that cannot be read is reported in the
log of the engine built without it; if it is a CXL key, the CXL tier stays at zero bytes.
-/

namespace TierHeap

/-- What an engine is built from on first use. -/
structure Environment (β : Type) where
  /-- The environment variables. -/
  lookup : Lookup
  /-- The backend of a tier under a configuration. -/
  source : Config → Tier → β

/-- A process as one of its threads sees it. -/
structure ProcessHeap (β : Type) where
  environment : Environment β
  /-- The process engine, if there is one. -/
  slot : Option (Engine β)
  bank : RegisterBank
  memory : Memory
  /-- The thread that makes the calls. -/
  thread : Nat
  /-- The error number of that thread. -/
  errno : Int

namespace Engine

variable {β : Type}

open Log (Event)

def noteRejected
    (engine : Engine β)
    (err : SettingError) : Engine β :=
  let event := (Event.new "init" "config_rejected" "default_kept").withDetails err.message
  engine.note .error
    (match err.tier? with
      | some tier => event.withTier tier
      | none => event)

def noteFenced (engine : Engine β) : Engine β :=
  engine.note .error
    (((Event.new "init" "cxl_fenced" "capacity_zero").withTier .cxl).withDetails
      "cxl settings rejected; cxl requests fail until reconfigured")

/-- The CXL tier is capped at zero bytes because one of its keys was refused. -/
def isFenced (reading : Config.Reading) : Bool :=
  reading.config.tiers.cxl.capacity == some 0 && reading.cxlRejected

def ofReading
    [Backend β]
    (source : Config → Tier → β)
    (reading : Config.Reading)
    (bank : RegisterBank) : Engine β × RegisterBank :=
  let (engine, bank) := ofConfig source reading.config bank
  let engine := reading.rejected.foldl noteRejected engine
  (if isFenced reading then engine.noteFenced else engine, bank)

end Engine

namespace ProcessHeap

variable {β : Type}

def initial (environment : Environment β) : ProcessHeap β :=
  ⟨environment, none, .initial, .blank, 0, 0⟩

def isInitialized (process : ProcessHeap β) : Bool :=
  process.slot.isSome

def engine
    [Backend β]
    (process : ProcessHeap β) : Engine β × ProcessHeap β :=
  match process.slot with
  | some engine => (engine, process)
  | none =>
      let reading := Config.ofLookupLenient process.environment.lookup
      let (engine, bank) := Engine.ofReading process.environment.source reading process.bank
      (engine, { process with slot := some engine, bank := bank })

/-- Take the process engine out and drop it; the result holds its backends, if there was
one. -/
def teardown
    [Backend β]
    (process : ProcessHeap β) : Option (PerTier β) × ProcessHeap β :=
  match process.slot with
  | none => (none, process)
  | some engine =>
      let (backends, bank) := engine.close process.bank
      (some backends, { process with slot := none, bank := bank })

/-- Make a new engine the process engine and drop the one it replaces; the result holds the
backends of that one, if there was one. -/
def install
    [Backend β]
    (process : ProcessHeap β)
    (make : RegisterBank → Engine β × RegisterBank) : Option (PerTier β) × ProcessHeap β :=
  let (fresh, bank) := make process.bank
  let (backends, process) := { process with bank := bank }.teardown
  (backends, { process with slot := some fresh })

/-- The contents of memory after the calls that lead from one state of an arena to another,
at most one of which commits: the committed segment reads as zero. -/
def contentsAfter
    (memory : Memory)
    (before after : Arena) : Memory :=
  if after.growths = before.growths then memory
  else after.newest.elim memory fun segment => memory.fill segment.base segment.len 0

/-- The error number of a thread after the requests that lead from one state of a backend to
another: that of the last failure among them, if any left one. -/
def errnoAfter
    [Backend β]
    (errno : Int)
    (before after : β) : Int :=
  if (Backend.errnos after).length = (Backend.errnos before).length then errno
  else (Backend.errnos after).headD errno

/-- Take in what a call has done to the memory and to the error number through a tier. -/
def settle
    [Backend β]
    (process : ProcessHeap β)
    (before after : Allocator β) : ProcessHeap β :=
  { process with
    memory := contentsAfter process.memory before.arena after.arena
    errno := errnoAfter process.errno before.backend after.backend }

/-- Make a call to the process engine.  Segments that are committed by it read as zero. -/
def call
    [Backend β]
    (process : ProcessHeap β)
    (call : Call) : Reply × ProcessHeap β :=
  let (engine, process) := process.engine
  let (reply, session) := (Session.mk engine process.bank).call process.thread call
  let process := { process with slot := some session.engine, bank := session.bank }
  (reply,
   Tier.all.foldl
     (fun process tier => process.settle (engine.tiers.get tier) (session.engine.tiers.get tier))
     process)

def activeTier
    [Backend β]
    (process : ProcessHeap β) : Tier × ProcessHeap β :=
  let (engine, process) := process.engine
  (engine.mode.read process.bank process.thread, process)

end ProcessHeap

end TierHeap
