import TierHeap.Engine.Session
import TierHeap.Proofs.Arena.Span

/-!
# Calls of many threads

Threads share a session and make their calls at the same time.  A call is a short sequence of
steps, each under a lock of its own: an allocation carves a range, enters its block and counts
it; a free takes the block out, returns its range and counts it; a resize changes tier and
table at once and is counted then; a trim goes through the tiers one after the other.  Between
two steps of one thread, any number of steps of other threads may happen.

The steps are the ones that the calls themselves are made of: a thread that runs alone makes
its call (`alone_call`).  Programs are fixed lists; a thread that chooses its calls by the
replies it gets makes the steps of one such list.  A history keeps what happened to ranges and
blocks, so that what is said of the past can be proved; no step reads it.
-/

namespace TierHeap.Interleaving

/-- What is left of a call when its work on tiers and table is done. -/
inductive Aftermath where
  /-- Nothing but the reply. -/
  | settled (reply : Reply)
  | rejected (symbol : String) (err : RequestError)
  | exhausted (symbol : String) (tier : Tier) (size : Nat) (cause : GrowError)
  | allocated (symbol : String) (block : Block) (grew : Bool) (displaced : Option Block)
  | unknownFree (addr : Nat)
  | freed (block : Block)
  | unknownResize (addr : Nat)
  | blocked (addr newSize : Nat)
  /-- The block is as it was before. -/
  | resized (addr : Nat) (block : Block) (newSize newReserved : Nat)
  | trimmed (released : Nat)
  deriving DecidableEq, Repr

/-- Where a thread is. -/
inductive Phase where
  /-- Between two calls. -/
  | idle
  /-- A request is checked, and nothing is carved for it yet. -/
  | routed (symbol : String) (tier : Tier) (size reserved align : Nat)
  /-- A block is carved, and not in the table yet. -/
  | carved (symbol : String) (block : Block) (grew : Bool)
  /-- A block is out of the table, and not returned yet. -/
  | removed (block : Block)
  | trimmingHost
  | trimmingCxl (hostBytes : Nat)
  | concluding (aftermath : Aftermath)
  deriving DecidableEq, Repr

/-- What happened to a range of a tier or to an entry of the table. -/
inductive Event where
  | carved (tier : Tier) (span : Span)
  | returned (tier : Tier) (span : Span)
  | resized (tier : Tier) (before after : Span)
  | entered (block : Block) (displaced : Option Block)
  | removed (addr : Nat)
  deriving DecidableEq, Repr

/-- A thread with the calls it has still to make and the replies it has got, latest first. -/
structure Thread where
  phase : Phase
  program : List Call
  replies : List Reply
  deriving DecidableEq, Repr

/-- A session, the threads that share it and what has happened, latest first. -/
structure Machine (β : Type) where
  session : Session β
  threads : List Thread
  history : List Event

variable {β : Type}

def Aftermath.reply : Aftermath → Reply
  | .settled reply => reply
  | .rejected _ err => .refused err
  | .exhausted _ tier size _ => .refused (.outOfMemory tier size)
  | .allocated _ block _ _ => .address block.addr
  | .unknownFree addr => .refused (.unknownAddress addr)
  | .freed block => .freed block.tier
  | .unknownResize addr => .refused (.unknownAddress addr)
  | .blocked _ _ => .resized false
  | .resized _ _ _ _ => .resized true
  | .trimmed released => .released released

def Aftermath.conclude
    (engine : Engine β)
    (active : Tier) : Aftermath → Engine β
  | .settled _ => engine
  | .rejected symbol err => engine.reject symbol err
  | .exhausted symbol tier size cause => engine.exhausted symbol tier size cause
  | .allocated symbol block grew displaced =>
      let engine := engine.noteDisplaced symbol displaced
      let engine := engine.count (·.onAllocate block.tier block.size grew)
      let engine := if grew then engine.noteGrowth symbol block.tier else engine
      engine.noteAllocation symbol block
  | .unknownFree addr => engine.noteUnknownFree addr
  | .freed block => engine.noteFree active block
  | .unknownResize addr =>
      engine.note .warn
        ((Log.Event.new "resize_in_place" "unknown_address" "rejected").withAddr addr)
  | .blocked addr newSize =>
      engine.note .debug
        (((Log.Event.new "resize_in_place" "resize_blocked" "must_move").withAddr addr).withSize
          newSize)
  | .resized addr block newSize _ =>
      (engine.count (·.onResize block.tier block.size newSize)).note .trace
        (((((Log.Event.new "resize_in_place" "resize" "success").withAddr addr).withSize
          newSize).withTier block.tier).withDetails
          ("old_size=" ++ Text.decimal block.size))
  | .trimmed released =>
      engine.note .info ((Log.Event.new "trim" "trim" "released").withSize released)

def route
    (symbol : String)
    (tier : Tier)
    (size align : Nat) : Phase :=
  match Engine.reserveAligned size align with
  | .error err => .concluding (.rejected symbol err)
  | .ok reserved => .routed symbol tier size reserved align

def withdraw
    (session : Session β)
    (addr : Nat) : Session β × Phase × List Event :=
  match session.engine.withdraw addr with
  | (none, engine) => (session.withEngine engine, .concluding (.unknownFree addr), [])
  | (some block, engine) => (session.withEngine engine, .removed block, [.removed addr])

/-- Resize the block at an address in its tier and in the table. -/
def resize
    (session : Session β)
    (addr newSize : Nat) : Session β × Phase × List Event :=
  match Engine.reserve newSize with
  | .error err => (session, .concluding (.rejected "resize_in_place" err), [])
  | .ok newReserved =>
      match session.engine.table.get? addr with
      | none => (session, .concluding (.unknownResize addr), [])
      | some block =>
          match session.engine.resizeBlock? block newSize newReserved with
          | none => (session, .concluding (.blocked addr newSize), [])
          | some engine =>
              (session.withEngine engine,
               .concluding (.resized addr block newSize newReserved),
               [.resized block.tier ⟨block.addr, block.reserved⟩ ⟨block.addr, newReserved⟩])

def start
    [Backend β]
    (session : Session β)
    (number : Nat) : Call → Session β × Phase × List Event
  | .enable =>
      let (reply, session) := session.call number .enable
      (session, .concluding (.settled reply), [])
  | .setMode tier =>
      let (reply, session) := session.call number (.setMode tier)
      (session, .concluding (.settled reply), [])
  | .allocate size =>
      (session, route "allocate" (session.active number) size granule, [])
  | .allocateAligned size align =>
      (session, route "allocate_aligned" (session.active number) size align, [])
  | .allocateOn tier size => (session, route "allocate_on" tier size granule, [])
  | .allocateOnAligned tier size align => (session, route "allocate_on" tier size align, [])
  | .free addr => withdraw session addr
  | .resize addr newSize => resize session addr newSize
  | .trim =>
      (session.withEngine (session.engine.count Metrics.onTrim), .trimmingHost, [])

def carve
    [Backend β]
    (session : Session β)
    (symbol : String)
    (tier : Tier)
    (size reserved align : Nat) : Session β × Phase × List Event :=
  match session.engine.carve tier reserved align with
  | (.error cause, engine) =>
      (session.withEngine engine, .concluding (.exhausted symbol tier size cause), [])
  | (.ok carve, engine) =>
      (session.withEngine engine,
       .carved symbol ⟨carve.addr, size, carve.reserved, tier⟩ carve.grew,
       [.carved tier ⟨carve.addr, carve.reserved⟩])

def enter
    (session : Session β)
    (symbol : String)
    (block : Block)
    (grew : Bool) : Session β × Phase × List Event :=
  let (displaced, engine) := session.engine.publish block
  (session.withEngine engine, .concluding (.allocated symbol block grew displaced),
   [.entered block displaced])

def Thread.turn
    [Backend β]
    (thread : Thread)
    (session : Session β)
    (number : Nat) : Session β × Thread × List Event :=
  match thread.phase with
  | .idle =>
      match thread.program with
      | [] => (session, thread, [])
      | call :: rest =>
          let (session, phase, events) := start session number call
          (session, { thread with phase := phase, program := rest }, events)
  | .routed symbol tier size reserved align =>
      let (session, phase, events) := carve session symbol tier size reserved align
      (session, { thread with phase := phase }, events)
  | .carved symbol block grew =>
      let (session, phase, events) := enter session symbol block grew
      (session, { thread with phase := phase }, events)
  | .removed block =>
      (session.withEngine (session.engine.giveBack block),
       { thread with phase := .concluding (.freed block) },
       [.returned block.tier ⟨block.addr, block.reserved⟩])
  | .trimmingHost =>
      let (bytes, engine) := session.engine.trimTier .host
      (session.withEngine engine, { thread with phase := .trimmingCxl bytes }, [])
  | .trimmingCxl hostBytes =>
      let (bytes, engine) := session.engine.trimTier .cxl
      (session.withEngine engine,
       { thread with phase := .concluding (.trimmed (Word.add hostBytes bytes)) }, [])
  | .concluding aftermath =>
      (session.withEngine (aftermath.conclude session.engine (session.active number)),
       { thread with phase := .idle, replies := aftermath.reply :: thread.replies }, [])

def alone
    [Backend β]
    (number : Nat) : Nat → Session β × Thread → Session β × Thread
  | 0, state => state
  | turns + 1, (session, thread) =>
      let (session, thread, _) := thread.turn session number
      alone number turns (session, thread)

namespace Machine

def opening
    (session : Session β)
    (programs : List (List Call)) : Machine β :=
  ⟨session, programs.map fun program => ⟨.idle, program, []⟩, []⟩

/-- Let a thread make its next step; there is none if there is no such thread. -/
def step
    [Backend β]
    (machine : Machine β)
    (number : Nat) : Machine β :=
  match machine.threads[number]? with
  | none => machine
  | some thread =>
      let (session, thread, events) := thread.turn machine.session number
      ⟨session, machine.threads.set number thread, events ++ machine.history⟩

def run
    [Backend β]
    (machine : Machine β)
    (schedule : List Nat) : Machine β :=
  schedule.foldl step machine

end Machine

section

variable [Backend β]

/-- A thread alone makes an allocation in at most three steps after the first. -/
theorem alone_route
    (session : Session β)
    (number : Nat)
    (symbol : String)
    (tier : Tier)
    (size align : Nat)
    (rest : List Call)
    (replies : List Reply) :
    ∃ turns,
      alone number turns (session, ⟨route symbol tier size align, rest, replies⟩) =
        (session.withEngine (session.engine.route tier size align symbol).2,
         ⟨.idle, rest,
          .ofAllocation (session.engine.route tier size align symbol).1 :: replies⟩) := by
  simp only [route, Engine.route]
  cases Engine.reserveAligned size align with
  | error err =>
      exact ⟨1, rfl⟩
  | ok reserved =>
      dsimp only
      cases carved : session.engine.carve tier reserved align with
      | mk answer engine =>
          cases answer with
          | error cause =>
              refine ⟨2, ?_⟩
              simp only [alone, Thread.turn, carve, carved]
              rfl
          | ok found =>
              refine ⟨3, ?_⟩
              simp only [alone, Thread.turn, carve, carved]
              rfl

theorem alone_withdraw
    (session : Session β)
    (number addr : Nat)
    (rest : List Call)
    (replies : List Reply) :
    ∃ turns,
      alone number turns
          ((withdraw session addr).1, ⟨(withdraw session addr).2.1, rest, replies⟩) =
        ((session.call number (.free addr)).2,
         ⟨.idle, rest, (session.call number (.free addr)).1 :: replies⟩) := by
  simp only [withdraw, Session.call, Engine.free, Engine.withdraw, BlockTable.remove]
  cases session.engine.table.get? addr with
  | none =>
      exact ⟨1, rfl⟩
  | some block =>
      exact ⟨2, rfl⟩

theorem alone_resize
    (session : Session β)
    (number addr newSize : Nat)
    (rest : List Call)
    (replies : List Reply) :
    alone number 1
        ((resize session addr newSize).1, ⟨(resize session addr newSize).2.1, rest, replies⟩) =
      ((session.call number (.resize addr newSize)).2,
       ⟨.idle, rest, (session.call number (.resize addr newSize)).1 :: replies⟩) := by
  simp only [resize, Session.call, Engine.resizeInPlace]
  cases Engine.reserve newSize with
  | error err =>
      rfl
  | ok newReserved =>
      dsimp only
      cases session.engine.table.get? addr with
      | none =>
          rfl
      | some block =>
          dsimp only
          cases session.engine.resizeBlock? block newSize newReserved <;> rfl

/-- The steps of a thread that runs alone are the calls that it makes. -/
theorem alone_call
    (session : Session β)
    (number : Nat)
    (call : Call)
    (rest : List Call)
    (replies : List Reply) :
    ∃ turns,
      alone number turns (session, ⟨.idle, call :: rest, replies⟩) =
        ((session.call number call).2,
         ⟨.idle, rest, (session.call number call).1 :: replies⟩) := by
  cases call with
  | enable =>
      exact ⟨2, rfl⟩
  | setMode tier =>
      exact ⟨2, rfl⟩
  | allocate size =>
      obtain ⟨turns, made⟩ :=
        alone_route session number "allocate" (session.active number) size granule rest replies
      exact ⟨turns + 1, made⟩
  | allocateAligned size align =>
      obtain ⟨turns, made⟩ :=
        alone_route session number "allocate_aligned" (session.active number) size align rest
          replies
      exact ⟨turns + 1, made⟩
  | allocateOn tier size =>
      obtain ⟨turns, made⟩ :=
        alone_route session number "allocate_on" tier size granule rest replies
      exact ⟨turns + 1, made⟩
  | allocateOnAligned tier size align =>
      obtain ⟨turns, made⟩ :=
        alone_route session number "allocate_on" tier size align rest replies
      exact ⟨turns + 1, made⟩
  | free addr =>
      obtain ⟨turns, made⟩ := alone_withdraw session number addr rest replies
      exact ⟨turns + 1, made⟩
  | resize addr newSize =>
      exact ⟨2, alone_resize session number addr newSize rest replies⟩
  | trim =>
      exact ⟨4, rfl⟩

end

end TierHeap.Interleaving
