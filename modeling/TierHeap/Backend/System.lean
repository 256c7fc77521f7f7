import TierHeap.Backend.Basic

/-!
# Backends of the operating system

Segments come from fresh page mappings, optionally bound to a memory node, or from the
system heap.  Only whole pages are committed.  The addresses follow each other downwards
from the top of the user address space; nothing else of them matters to the engine.
-/

namespace TierHeap

/-- A source of system memory for one tier. -/
structure SystemBackend where
  tier : Tier
  kind : BackendKind
  /-- The node that mappings are bound to, if any. -/
  node : Option Nat
  /-- The lowest address handed out so far. -/
  lowest : Nat
  /-- The error numbers of the failed mappings, latest first. -/
  errnos : List Int
  deriving DecidableEq, Repr

namespace SystemBackend

/-- The end of the addresses a tier's segments are taken from. -/
def ceiling : Tier → Nat
  | .host => 0x7f0000000000
  | .cxl => 0x7e0000000000

def ofConfig
    (config : Config)
    (tier : Tier) : SystemBackend where
  tier := tier
  kind := config.backend
  node :=
    match config.backend with
    | .mmap => (config.tiers.get tier).node
    | .heap => none
  lowest := ceiling tier
  errnos := []

/-- Node masks have a bit for each node below this. -/
def nodeLimit : Nat :=
  1024

/-- The largest length the system heap can be asked for. -/
def heapLimit : Nat :=
  9223372036854771712

/-- The memory of the system in bytes.  A request for as much in one piece finds no room,
however little of it would be used. -/
def memorySize : Nat :=
  34359738368

/-- Whether the system has room for so many bytes in one piece. -/
def hasRoom (bytes : Nat) : Bool :=
  bytes < memorySize

def outOfMemoryErrno : Int :=
  12

/-- Why a length cannot be committed, if so: it is no positive page multiple, or the system
has no room for it, or the node does not exist. -/
def refusal?
    (backend : SystemBackend)
    (len : Nat) : Option BackendError :=
  if len = 0 ∨ len % pageSize ≠ 0 then some (.invalidLength len)
  else if backend.kind = .heap ∧ heapLimit < len then some (.invalidLength len)
  else if memorySize ≤ len then some (.mapFailed len outOfMemoryErrno)
  else
    match backend.node with
    | some node => if nodeLimit ≤ node then some (.nodeOutOfRange node) else none
    | none => none

/-- The error number that a refusal leaves with the calling thread: that of a failed mapping.
The other refusals do not come from the system. -/
def errnoOf? : BackendError → Option Int
  | .mapFailed _ errno => some errno
  | _ => none

def commit
    (backend : SystemBackend)
    (len : Nat) : Except BackendError Segment × SystemBackend :=
  match backend.refusal? len with
  | some err =>
      (.error err, { backend with errnos := (errnoOf? err).toList ++ backend.errnos })
  | none =>
      let base := backend.lowest - len
      (.ok ⟨base, len⟩, { backend with lowest := base })

/-- Take a segment back.  The system heap refuses lengths it could never have given. -/
def release
    (backend : SystemBackend)
    (segment : Segment) : Except BackendError Unit × SystemBackend :=
  if backend.kind = .heap ∧ heapLimit < segment.len then
    (.error (.invalidLength segment.len), backend)
  else
    (.ok (), backend)

def describe (backend : SystemBackend) : String :=
  match backend.kind, backend.node with
  | .mmap, some node => "mmap node=" ++ Text.decimal node
  | .mmap, none => "mmap node=local"
  | .heap, _ => "heap"

instance : Backend SystemBackend where
  commit backend _ len := backend.commit len
  release backend _ segment := backend.release segment
  describe := describe
  errnos := errnos

end SystemBackend

end TierHeap
