import TierHeap.Config.Basic
import TierHeap.Error
import TierHeap.Segment

/-!
# Backends

A backend commits segments for one tier and takes them back.  It never looks inside a
segment.  Its answers may depend on everything it was asked before, so every call returns
the backend as it is afterwards.

A request that the system refuses leaves an error number with the thread that asked; a backend
keeps those numbers, so that a step can be seen to have added one.

The `depth` of a call is the number of engine calls that are open on the calling thread:
zero outside the engine.
-/

namespace TierHeap

/-- A provider of segments.  `depth` is the number of engine calls open on the caller. -/
class Backend (β : Type) where
  /-- Commit so many bytes. -/
  commit : β → (depth : Nat) → (len : Nat) → Except BackendError Segment × β
  /-- Take back a segment that was committed. -/
  release : β → (depth : Nat) → Segment → Except BackendError Unit × β
  /-- A short description for records. -/
  describe : β → String
  /-- The error numbers that its failures have left with the thread that asked, latest
  first. -/
  errnos : β → List Int

/-- Either of two kinds of backend. -/
instance {α β : Type} [Backend α] [Backend β] : Backend (α ⊕ β) where
  commit
    | .inl backend, depth, len =>
        let (answer, backend) := Backend.commit backend depth len
        (answer, .inl backend)
    | .inr backend, depth, len =>
        let (answer, backend) := Backend.commit backend depth len
        (answer, .inr backend)
  release
    | .inl backend, depth, segment =>
        let (answer, backend) := Backend.release backend depth segment
        (answer, .inl backend)
    | .inr backend, depth, segment =>
        let (answer, backend) := Backend.release backend depth segment
        (answer, .inr backend)
  describe
    | .inl backend => Backend.describe backend
    | .inr backend => Backend.describe backend
  errnos
    | .inl backend => Backend.errnos backend
    | .inr backend => Backend.errnos backend

end TierHeap
