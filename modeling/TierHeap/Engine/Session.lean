import TierHeap.Engine.Calls
import TierHeap.Engine.Queries

/-!
# Calls as data

A session is an engine with the register bank of its process.  Calls are data, so that a run
is a list of calls, each with the thread that makes it.
-/

namespace TierHeap

/-- A call that may change an engine. -/
inductive Call where
  | enable
  | setMode (tier : Tier)
  | allocate (size : Nat)
  | allocateAligned (size align : Nat)
  | allocateOn (tier : Tier) (size : Nat)
  | allocateOnAligned (tier : Tier) (size align : Nat)
  | free (addr : Nat)
  | resize (addr size : Nat)
  | trim
  deriving DecidableEq, Repr

inductive Reply where
  | done
  | previous (tier : Tier)
  | address (addr : Nat)
  | freed (tier : Tier)
  | resized (inPlace : Bool)
  | released (bytes : Nat)
  | refused (err : RequestError)
  deriving DecidableEq, Repr

namespace Reply

def ofAllocation : Except RequestError Nat → Reply
  | .ok addr => .address addr
  | .error err => .refused err

def ofFree : Except RequestError Tier → Reply
  | .ok tier => .freed tier
  | .error err => .refused err

def ofResize : Except RequestError Bool → Reply
  | .ok inPlace => .resized inPlace
  | .error err => .refused err

def address? : Reply → Option Nat
  | .address addr => some addr
  | _ => none

end Reply

/-- An engine with the register bank of its process. -/
structure Session (β : Type) where
  engine : Engine β
  bank : RegisterBank

namespace Session

variable {β : Type}

def active
    (session : Session β)
    (thread : Nat) : Tier :=
  session.engine.mode.read session.bank thread

def withEngine
    (session : Session β)
    (engine : Engine β) : Session β :=
  { session with engine := engine }

def call
    [Backend β]
    (session : Session β)
    (thread : Nat) : Call → Reply × Session β
  | .enable =>
      (.done, session.withEngine (session.engine.enableIndicator (session.active thread)))
  | .setMode tier =>
      let (previous, engine, bank) := session.engine.setMode session.bank thread tier
      (.previous previous, ⟨engine, bank⟩)
  | .allocate size =>
      let (answer, engine) := session.engine.allocate (session.active thread) size
      (.ofAllocation answer, session.withEngine engine)
  | .allocateAligned size align =>
      let (answer, engine) := session.engine.allocateAligned (session.active thread) size align
      (.ofAllocation answer, session.withEngine engine)
  | .allocateOn tier size =>
      let (answer, engine) := session.engine.allocateOn tier size
      (.ofAllocation answer, session.withEngine engine)
  | .allocateOnAligned tier size align =>
      let (answer, engine) := session.engine.allocateOnAligned tier size align
      (.ofAllocation answer, session.withEngine engine)
  | .free addr =>
      let (answer, engine) := session.engine.free (session.active thread) addr
      (.ofFree answer, session.withEngine engine)
  | .resize addr size =>
      let (answer, engine) := session.engine.resizeInPlace addr size
      (.ofResize answer, session.withEngine engine)
  | .trim =>
      let (bytes, engine) := session.engine.trim
      (.released bytes, session.withEngine engine)

def run
    [Backend β]
    (session : Session β)
    (calls : List (Nat × Call)) : Session β :=
  calls.foldl (fun session (thread, call) => (session.call thread call).2) session

end Session

end TierHeap
