import TierHeap.ProcessHeap

/-!
# The C entry points

The entry points that C callers use, over the process engine.  An address of zero is the null
pointer.  Some entry points take the tier from the mode register, others pin it; a release or
a resize always goes to the tier that the block came from.  A failure returns null or a code,
and sets the error number as the corresponding POSIX function does.
-/

namespace TierHeap.Abi

variable {β : Type}

inductive Placement where
  /-- The tier that the mode register selects. -/
  | byMode
  | pinned (tier : Tier)
  deriving DecidableEq, Repr

inductive Entry where
  | enable
  | setTier (tier : Tier)
  | mode
  | malloc (place : Placement) (size : Nat)
  | free (ptr : Nat)
  /-- A release without a result. -/
  | freeQuietly (ptr : Nat)
  | calloc (place : Placement) (count size : Nat)
  | realloc (place : Placement) (ptr size : Nat)
  | alignedAlloc (place : Placement) (align size : Nat)
  /-- `stores` is false if the caller passes no place for the result. -/
  | posixMemalign (place : Placement) (stores : Bool) (align size : Nat)
  | usableSize (ptr : Nat)
  | blockTier (ptr : Nat)
  | trim
  deriving DecidableEq, Repr

/-- What an entry point returns. -/
inductive Answer where
  | nothing
  | int (value : Int)
  | size (value : Nat)
  | pointer (addr : Nat)
  /-- A code, and the pointer stored for the caller, if one was. -/
  | stored (code : Int) (addr : Option Nat)
  deriving DecidableEq, Repr

/-- The error number for a request that finds no memory. -/
def noMemory : Int :=
  12

/-- The error number for an argument that is not valid. -/
def invalidArgument : Int :=
  22

/-- The error number of a refused request. -/
def errnoOf : RequestError → Int
  | .outOfMemory _ _ => noMemory
  | _ => invalidArgument

def setErrno
    (process : ProcessHeap β)
    (errno : Int) : ProcessHeap β :=
  { process with errno := errno }

/-- The error number that a reply leaves: its own if it refuses, the old one otherwise. -/
def settleErrno
    (process : ProcessHeap β) : Reply → ProcessHeap β
  | .refused err => setErrno process (errnoOf err)
  | _ => process

def pointerOf (reply : Reply) : Nat :=
  reply.address?.getD 0

def Placement.allocate
    (size : Nat) : Placement → Call
  | .byMode => .allocate size
  | .pinned tier => .allocateOn tier size

def Placement.allocateAligned
    (size align : Nat) : Placement → Call
  | .byMode => .allocateAligned size align
  | .pinned tier => .allocateOnAligned tier size align

variable [Backend β]

def allocating
    (process : ProcessHeap β)
    (call : Call) : Nat × ProcessHeap β :=
  let (reply, process) := process.call call
  (pointerOf reply, settleErrno process reply)

/-- Release a block; null is no error. -/
def release
    (process : ProcessHeap β)
    (ptr : Nat) : Int × ProcessHeap β :=
  if ptr = 0 then
    (0, process)
  else
    let (reply, process) := process.call (.free ptr)
    match reply with
    | .refused err => (-1, setErrno process (errnoOf err))
    | _ => (0, process)

/-- Allocate an array of zeros; an array too large for a word counts as no memory. -/
def calloc
    (process : ProcessHeap β)
    (place : Placement)
    (count size : Nat) : Nat × ProcessHeap β :=
  match Word.mulChecked? count size with
  | none => (0, setErrno process noMemory)
  | some total =>
      let (ptr, process) := allocating process (place.allocate total)
      if ptr = 0 then (ptr, process)
      else (ptr, { process with memory := process.memory.fill ptr total 0 })

/-- Move a block to a new one on its own tier, with as many bytes as both hold. -/
def move
    (process : ProcessHeap β)
    (block : Block)
    (size : Nat) : Nat × ProcessHeap β :=
  let (ptr, process) := allocating process (.allocateOn block.tier size)
  if ptr = 0 then
    (0, process)
  else
    let memory := process.memory.copy block.addr ptr (min block.size size)
    let (_, process) := { process with memory := memory }.call (.free block.addr)
    (ptr, process)

def resize
    (process : ProcessHeap β)
    (block : Block)
    (size : Nat) : Nat × ProcessHeap β :=
  let (reply, process) := process.call (.resize block.addr size)
  match reply with
  | .resized true => (block.addr, process)
  | .refused err => (0, setErrno process (errnoOf err))
  | _ => move process block size

/-- Resize a block.  Null allocates, a size of zero releases. -/
def realloc
    (process : ProcessHeap β)
    (place : Placement)
    (ptr size : Nat) : Nat × ProcessHeap β :=
  let (engine, process) := process.engine
  if ptr = 0 then
    allocating process (place.allocate size)
  else if size = 0 then
    (0, (release process ptr).2)
  else
    match engine.block? ptr with
    | none => (0, setErrno process invalidArgument)
    | some block => resize process block size

/-- The size of a pointer: alignments are multiples of it. -/
def pointerSize : Nat :=
  8

/-- Allocate with an alignment into a place of the caller.  A failure is the result; the error
number is set by nothing but what the backend does. -/
def posixMemalign
    (process : ProcessHeap β)
    (place : Placement)
    (stores : Bool)
    (align size : Nat) : Int × Option Nat × ProcessHeap β :=
  if stores ∧ isPowerOfTwo align ∧ align % pointerSize = 0 ∧ align ≤ pageSize then
    let (reply, process) := process.call (place.allocateAligned size align)
    match reply with
    | .address addr => (0, some addr, process)
    | .refused err => (errnoOf err, none, process)
    | _ => (0, none, process)
  else
    (invalidArgument, none, process)

/-- The bytes usable in a block: none for null or an unknown pointer. -/
def usableSize
    (process : ProcessHeap β)
    (ptr : Nat) : Nat × ProcessHeap β :=
  if ptr = 0 then
    (0, process)
  else
    let (engine, process) := process.engine
    match engine.usableSize ptr with
    | .ok size => (size, process)
    | .error _ => (0, process)

/-- The tier of a block: `-1` for an unknown pointer. -/
def blockTier
    (process : ProcessHeap β)
    (ptr : Nat) : Int × ProcessHeap β :=
  let (engine, process) := process.engine
  match engine.ownerOf? ptr with
  | some tier => (tier.raw, process)
  | none => (-1, process)

def releasedBytes : Reply → Nat
  | .released bytes => bytes
  | _ => 0

def invoke
    (process : ProcessHeap β) : Entry → Answer × ProcessHeap β
  | .enable =>
      let (_, process) := process.call .enable
      (.nothing, process)
  | .setTier tier =>
      let (_, process) := process.call (.setMode tier)
      (.int 0, process)
  | .mode =>
      let (tier, process) := process.activeTier
      (.int tier.raw, process)
  | .malloc place size =>
      let (ptr, process) := allocating process (place.allocate size)
      (.pointer ptr, process)
  | .free ptr =>
      let (code, process) := release process ptr
      (.int code, process)
  | .freeQuietly ptr =>
      let (_, process) := release process ptr
      (.nothing, process)
  | .calloc place count size =>
      let (ptr, process) := calloc process place count size
      (.pointer ptr, process)
  | .realloc place ptr size =>
      let (ptr, process) := realloc process place ptr size
      (.pointer ptr, process)
  | .alignedAlloc place align size =>
      let (ptr, process) := allocating process (place.allocateAligned size align)
      (.pointer ptr, process)
  | .posixMemalign place stores align size =>
      let (code, addr, process) := posixMemalign process place stores align size
      (.stored code addr, process)
  | .usableSize ptr =>
      let (size, process) := usableSize process ptr
      (.size size, process)
  | .blockTier ptr =>
      let (tier, process) := blockTier process ptr
      (.int tier, process)
  | .trim =>
      let (reply, process) := process.call .trim
      (.size (releasedBytes reply), process)

end TierHeap.Abi
