import TierHeap.Backend.System
import TierHeap.Churn.Worker
import TierHeap.Failure

/-!
# Churn runs

Several workers on one engine.  `advance` makes the next call of one worker, so a run is a
list of worker numbers; `runAll` is the run in which each worker finishes before the next
one starts.  Afterwards the engine is verified and the tallies are added up.
-/

namespace TierHeap.Churn

variable {β : Type}

/-- The workers of a churn and the engine they share. -/
structure State (β : Type) where
  session : Session β
  workers : List Worker

namespace State

def threadOf (index : Nat) : Nat :=
  index + 1

def start
    (session : Session β)
    (plan : Plan) : State β :=
  ⟨session, (List.range (max plan.threads 1)).map (Worker.start plan)⟩

variable [Backend β]

/-- Make the next call of a worker, unless it has finished. -/
def advance
    (plan : Plan)
    (state : State β)
    (index : Nat) : State β :=
  match state.workers[index]?.bind (Worker.next? plan state.session.engine.config.scope) with
  | none => state
  | some (call, receive) =>
      let (reply, session) := state.session.call (threadOf index) call
      ⟨session, state.workers.set index (receive reply)⟩

def runSchedule
    (plan : Plan)
    (state : State β)
    (schedule : List Nat) : State β :=
  schedule.foldl (advance plan) state

end State

def runWorker
    [Backend β]
    (plan : Plan)
    (thread : Nat) : Nat → Session β → Worker → Session β × Worker
  | 0, session, worker => (session, worker)
  | fuel + 1, session, worker =>
      match worker.next? plan session.engine.config.scope with
      | none => (session, worker)
      | some (call, receive) =>
          let (reply, session) := session.call thread call
          runWorker plan thread fuel session (receive reply)

/-- No worker makes more calls than this: two for each operation, and one for each block
that it frees at the end. -/
def callLimit (plan : Plan) : Nat :=
  3 * plan.opsPerThread

def runAll
    [Backend β]
    (plan : Plan)
    (session : Session β) : Session β × List Worker :=
  (List.range (max plan.threads 1)).foldl
    (fun (session, finished) index =>
      let (session, worker) :=
        runWorker plan (State.threadOf index) (callLimit plan) session (.start plan index)
      (session, finished ++ [worker]))
    (session, [])

structure Summary where
  plan : Plan
  scope : ModeScope
  elapsedMs : Nat
  tiers : PerTier TierTally
  tierMismatches : Nat
  unknownFrees : Nat
  /-- The peaks of the workers added up: a bound on the peak of all of them together. -/
  sumOfWorkerPeaks : Nat
  engine : EngineStats
  deriving DecidableEq, Repr

/-- Every free went to the tier asked for, and nothing is left. -/
def Summary.isClean (summary : Summary) : Bool :=
  summary.tierMismatches == 0 && summary.unknownFrees == 0 && summary.engine.liveBlocks == 0

def TierTally.add
    (x y : TierTally) : TierTally :=
  ⟨x.allocations + y.allocations, x.frees + y.frees, x.outOfMemory + y.outOfMemory⟩

/-- Add the outcomes of workers; the peaks are added too. -/
def Tally.add
    (x y : Tally) : Tally where
  tiers := .ofFn fun tier => (x.tiers.get tier).add (y.tiers.get tier)
  tierMismatches := x.tierMismatches + y.tierMismatches
  unknownFrees := x.unknownFrees + y.unknownFrees
  peakLive := x.peakLive + y.peakLive

/-- The summary of finished workers, if none gave up and the engine verifies. -/
def summarize
    (plan : Plan)
    (session : Session β)
    (workers : List Worker)
    (thread elapsedMs : Nat) : Except Failure Summary :=
  match workers.findSome? Worker.failed with
  | some err => .error (.allocation err)
  | none =>
      match session.engine.verify with
      | .error violation => .error (.invariant violation)
      | .ok () =>
          let total := workers.foldl (fun total worker => total.add worker.tally) Tally.zero
          .ok
            { plan := plan
              scope := session.engine.config.scope
              elapsedMs := elapsedMs
              tiers := total.tiers
              tierMismatches := total.tierMismatches
              unknownFrees := total.unknownFrees
              sumOfWorkerPeaks := total.peakLive
              engine := session.engine.stats (session.active thread) }

/-- How a churn ends that has no summary. -/
inductive Ending where
  | failed (failure : Failure)
  /-- The churn panics. -/
  | panicked
  /-- The process is aborted for want of so many bytes. -/
  | aborted (bytes : Nat)
  deriving DecidableEq, Repr

namespace Ending

def name : Ending → String
  | .failed failure => failure.name
  | .panicked => "Panicked"
  | .aborted _ => "Aborted"

def message : Ending → String
  | .failed failure => failure.message
  | .panicked => "a scoped thread panicked"
  | .aborted bytes => "memory allocation of " ++ Text.decimal bytes ++ " bytes failed"

def inspect : Ending → String
  | .failed failure => failure.inspect
  | ending => ending.message

end Ending

/-- The size of an entry of a worker's list. -/
def entrySize : Nat :=
  16

/-- The size of the list that a worker reserves before its first call. -/
def Plan.listBytes (plan : Plan) : Nat :=
  plan.maxLivePerThread * entrySize

/-- How a churn ends whose workers cannot reserve their lists, in a system that has room for
some lists only.  No list can have `2 ^ 63` bytes: each of its workers panics. -/
def Plan.reservationFailure?
    (plan : Plan)
    (room : Nat → Bool) : Option Ending :=
  if Nat.pow 2 63 ≤ plan.listBytes then
    -- The churn waits for no other worker once the first one has panicked, and the panic of a
    -- worker that nobody has waited for is its own.
    some (if max plan.threads 1 = 1 then .failed .workerPanicked else .panicked)
  else if 0 < plan.listBytes ∧ !room plan.listBytes then
    some (.aborted plan.listBytes)
  else
    none

/-- Churn an engine on behalf of a thread, in a system that has room for some lists only. -/
def runWithin
    [Backend β]
    (room : Nat → Bool)
    (plan : Plan)
    (session : Session β)
    (thread elapsedMs : Nat) : Except Ending Summary × Session β :=
  match plan.reservationFailure? room with
  | some ending => (.error ending, session)
  | none =>
      let (session, workers) := runAll plan session
      ((summarize plan session workers thread elapsedMs).mapError .failed, session)

/-- Churn an engine on behalf of a thread, with as much room for lists as there is for
mappings. -/
def run
    [Backend β]
    (plan : Plan)
    (session : Session β)
    (thread elapsedMs : Nat) : Except Ending Summary × Session β :=
  runWithin SystemBackend.hasRoom plan session thread elapsedMs

end TierHeap.Churn
