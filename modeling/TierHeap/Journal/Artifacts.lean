import TierHeap.Json.Printer
import TierHeap.Sha256
import TierHeap.Timestamp

/-!
# Artifact indexes

An index lists the files of a run with their digests and sizes.
-/

namespace TierHeap.Journal

structure Artifact where
  path : String
  kind : String
  sha256 : String
  sizeBytes : Nat
  deriving DecidableEq, Repr

structure ArtifactIndex where
  runId : String
  generatedUtc : String
  artifacts : List Artifact
  deriving DecidableEq, Repr

namespace ArtifactIndex

/-- The version of the form that indexes are written in. -/
def version : Nat :=
  1

def new
    (now : Instant)
    (runId : String) : ArtifactIndex :=
  ⟨runId, Timestamp.ofInstant now, []⟩

def add
    (index : ArtifactIndex)
    (path kind : String)
    (contents : List UInt8) : ArtifactIndex :=
  { index with
    artifacts := index.artifacts ++ [⟨path, kind, Sha256.hexDigest contents, contents.length⟩] }

def artifactJson (artifact : Artifact) : Json :=
  .object
    [("path", .string artifact.path), ("kind", .string artifact.kind),
     ("sha256", .string artifact.sha256), ("size_bytes", .nat artifact.sizeBytes)]

def toJson (index : ArtifactIndex) : Json :=
  .object
    [("index_version", .nat version), ("run_id", .string index.runId),
     ("generated_utc", .string index.generatedUtc),
     ("artifacts", Json.ofList artifactJson index.artifacts)]

def text (index : ArtifactIndex) : String :=
  index.toJson.pretty

end ArtifactIndex

end TierHeap.Journal
