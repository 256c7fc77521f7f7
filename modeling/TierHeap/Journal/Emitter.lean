import TierHeap.Journal.Entry

/-!
# Emitting journal lines

An emitter numbers the entries of a run, fills in what an entry leaves open and writes each
on a line of its own.  A line and its end are written one after the other, and a sink that
refuses one of them ends the call there; the number is used up all the same.
-/

namespace TierHeap.Journal

/-- Something that text can be written to.  A refused text is not written at all. -/
class Sink (σ : Type) where
  write : σ → String → Option σ

/-- A sink in memory. -/
structure TextBuffer where
  text : String
  deriving DecidableEq, Repr, Inhabited

instance : Sink TextBuffer where
  write buffer text := some ⟨buffer.text ++ text⟩

/-- A sink in memory with room for so many more bytes. -/
structure BoundedBuffer where
  text : String
  room : Nat
  deriving DecidableEq, Repr

instance : Sink BoundedBuffer where
  write buffer text :=
    if text.utf8ByteSize ≤ buffer.room then
      some ⟨buffer.text ++ text, buffer.room - text.utf8ByteSize⟩
    else
      none

/-- Either of two kinds of sink. -/
instance {σ τ : Type} [Sink σ] [Sink τ] : Sink (σ ⊕ τ) where
  write
    | .inl sink, text => (Sink.write sink text).map .inl
    | .inr sink, text => (Sink.write sink text).map .inr

/-- A writer of journal lines. -/
structure Emitter (σ : Type) where
  runId : String
  /-- The number of entries so far. -/
  sequence : Nat
  sink : σ

namespace Emitter

variable {σ : Type}

def new
    (runId : String)
    (sink : σ) : Emitter σ :=
  ⟨runId, 0, sink⟩

/-- The trace of an entry without one: the run and the number of the entry. -/
def generatedTrace
    (runId : String)
    (sequence : Nat) : String :=
  "harness::" ++ runId ++ "::" ++ Text.decimalPadded 3 sequence

/-- The entry with its number counted, and with a trace and a run. -/
def complete
    (emitter : Emitter σ)
    (entry : Entry) : Entry × Emitter σ :=
  let sequence := emitter.sequence + 1
  let traceId :=
    if entry.traceId = "" then generatedTrace emitter.runId sequence else entry.traceId
  ({ entry with traceId := traceId, runId := some (entry.runId.getD emitter.runId) },
   { emitter with sequence := sequence })

variable [Sink σ]

/-- Write a line and its end; the first result says whether both were written. -/
def writeLine
    (emitter : Emitter σ)
    (entry : Entry) : Bool × Emitter σ :=
  match Sink.write emitter.sink entry.line with
  | none => (false, emitter)
  | some sink =>
      match Sink.write sink "\n" with
      | none => (false, { emitter with sink := sink })
      | some sink => (true, { emitter with sink := sink })

/-- Emit an entry; the first result is the entry as written, or `none` if writing failed. -/
def emitEntry
    (emitter : Emitter σ)
    (entry : Entry) : Option Entry × Emitter σ :=
  let (entry, emitter) := emitter.complete entry
  let (written, emitter) := emitter.writeLine entry
  (if written then some entry else none, emitter)

def emit
    (emitter : Emitter σ)
    (now : Instant)
    (level : Log.Level)
    (event : String) : Option Entry × Emitter σ :=
  emitter.emitEntry (.new now "" level event)

/-- Emit lifecycle records, oldest first, until writing fails; the first result is their
number, or `none` if writing failed.  The clock is read once more for each record. -/
def emitRecords
    (emitter : Emitter σ)
    (clock : Clock) : List Log.Record → Option Nat × Emitter σ
  | [] => (some 0, emitter)
  | record :: rest =>
      match emitter.emitEntry (.ofRecord clock.now record) with
      | (none, emitter) => (none, emitter)
      | (some _, emitter) =>
          let (count, emitter) := emitter.emitRecords clock.tick rest
          (count.map (· + 1), emitter)

end Emitter

end TierHeap.Journal
