import TierHeap.Backend.Basic
import TierHeap.Layout

/-!
# A simulated backend

Segments are laid out one after the other from a base address, upwards or downwards, with a
gap between two.  A plan can override single answers, and single releases can be made to
fail.  Every call is recorded, with whether it came from inside an engine call.
-/

namespace TierHeap

/-- An override of one answer to a commit. -/
inductive PlannedCommit where
  /-- Fail. -/
  | fail (err : BackendError)
  /-- Answer with a base or a length other than the usual one, where given. -/
  | answer (base len : Option Nat)
  deriving DecidableEq, Repr

/-- What a simulated backend has been asked. -/
inductive BackendEvent where
  /-- A commit of so many bytes; `base` is absent if it failed. -/
  | commit (len : Nat) (base : Option Nat) (insideEngine : Bool)
  /-- A release, successful or not. -/
  | release (segment : Segment) (insideEngine : Bool)
  /-- A trial of the heap adapter during a commit, and whether the engine would serve it. -/
  | probe (servedByEngine : Bool)
  deriving DecidableEq, Repr

structure SimulatedBackend where
  description : String
  /-- Where the next segment is placed. -/
  cursor : Nat
  gap : Nat
  /-- Segments follow each other downwards. -/
  downwards : Bool
  /-- The longest segment there is room for. -/
  maxLen : Nat
  /-- Overrides of the coming commits. -/
  plan : List PlannedCommit
  /-- Which of the releases fail, counted from zero. -/
  failingReleases : List Nat
  /-- The number of releases so far. -/
  releases : Nat
  /-- Whether the heap adapter is tried during each successful commit inside the engine. -/
  probes : Bool
  /-- What the backend has been asked, latest first. -/
  history : List BackendEvent
  deriving DecidableEq, Repr

namespace SimulatedBackend

def outOfMemoryErrno : Int :=
  12

def invalidArgumentErrno : Int :=
  22

def events (backend : SimulatedBackend) : List BackendEvent :=
  backend.history.reverse

/-- Where the next segment of a length goes, and where the cursor moves. -/
def place
    (backend : SimulatedBackend)
    (len : Nat) : Nat × Nat :=
  if backend.downwards then
    let base := Word.sub backend.cursor len
    (base, Word.sub base backend.gap)
  else
    (backend.cursor, Word.add (Word.add backend.cursor len) backend.gap)

/-- Answer a commit: the plan first, then the limit on lengths, then the next place. -/
def answer
    (backend : SimulatedBackend)
    (len : Nat) : Except BackendError Segment × SimulatedBackend :=
  let planned := backend.plan.headD (.answer none none)
  let backend := { backend with plan := backend.plan.tail }
  match planned with
  | .fail err => (.error err, backend)
  | .answer base? len? =>
      if backend.maxLen < len then
        (.error (.mapFailed len outOfMemoryErrno), backend)
      else
        match base? with
        | some base => (.ok ⟨base, len?.getD len⟩, backend)
        | none =>
            let (base, cursor) := backend.place len
            (.ok ⟨base, len?.getD len⟩, { backend with cursor := cursor })

def committedBase? : Except BackendError Segment → Option Nat
  | .ok segment => some segment.base
  | .error _ => none

/-- The layout that the heap adapter is tried with. -/
def probeLayout : Layout :=
  ⟨granule, granule⟩

def commit
    (backend : SimulatedBackend)
    (depth len : Nat) : Except BackendError Segment × SimulatedBackend :=
  let (answer, backend) := backend.answer len
  let event := BackendEvent.commit len (committedBase? answer) (0 < depth)
  let trial :=
    if backend.probes ∧ 0 < depth ∧ answer.isOk then
      [BackendEvent.probe (probeLayout.servedByEngine depth)]
    else
      []
  (answer, { backend with history := trial ++ event :: backend.history })

def release
    (backend : SimulatedBackend)
    (depth : Nat)
    (segment : Segment) : Except BackendError Unit × SimulatedBackend :=
  let event := BackendEvent.release segment (0 < depth)
  let fails := backend.failingReleases.contains backend.releases
  let backend :=
    { backend with releases := backend.releases + 1, history := event :: backend.history }
  (if fails then .error (.unmapFailed segment.base invalidArgumentErrno) else .ok (), backend)

instance : Backend SimulatedBackend where
  commit := commit
  release := release
  describe := description
  errnos _ := []

end SimulatedBackend

end TierHeap
