import TierHeap.Journal.Emitter
import TierHeap.Proofs.Journal.Lines

/-!
# Emissions into memory

An emission hands entries to an emitter, which writes them one after the other with their numbers
filled in.  In memory no emission fails, and the text is that of all entries so far
(`Emitter.performAll_eq`).
-/

namespace TierHeap.Journal

/-- A setting of a new entry. -/
inductive Setting where
  | run (runId : String)
  | decisionId (id : Nat)
  | symbol (symbol : String)
  | tier (tier : Tier)
  | mode (tier : Tier)
  | addr (addr : Nat)
  | size (size : Nat)
  | outcome (outcome : String)
  | durationMs (millis : Nat)
  | artifacts (refs : List String)
  deriving DecidableEq, Repr

def Entry.set
    (entry : Entry) : Setting → Entry
  | .run runId => { entry with runId := some runId }
  | .decisionId id => { entry with decisionId := some id }
  | .symbol symbol => { entry with symbol := some symbol }
  | .tier tier => { entry with tier := some tier }
  | .mode tier => { entry with mode := some tier }
  | .addr addr => { entry with addr := some (Text.address addr) }
  | .size size => { entry with size := some size }
  | .outcome outcome => { entry with outcome := some outcome }
  | .durationMs millis => { entry with durationMs := some millis }
  | .artifacts refs => { entry with artifactRefs := some refs }

/-- A call on an emitter. -/
inductive Emission where
  /-- Emit a new entry. -/
  | plain (now : Instant) (level : Log.Level) (event : String)
  /-- Emit a new entry with settings. -/
  | built (now : Instant) (level : Log.Level) (event : String) (settings : List Setting)
  /-- Emit lifecycle records, each at a reading of the clock of its own. -/
  | exported (clock : Clock) (records : List Log.Record)
  deriving DecidableEq, Repr

/-- The entries of records, each made at the next reading of the clock. -/
def Entry.ofRecords : Clock → List Log.Record → List Entry
  | _, [] => []
  | clock, record :: rest => .ofRecord clock.now record :: ofRecords clock.tick rest

@[simp]
theorem Entry.length_ofRecords
    (clock : Clock)
    (records : List Log.Record) :
    (Entry.ofRecords clock records).length = records.length := by
  induction records generalizing clock with
  | nil =>
      rfl
  | cons record rest inductionHypothesis =>
      rw [ofRecords, List.length_cons, List.length_cons, inductionHypothesis]

def Emission.entries : Emission → List Entry
  | .plain now level event => [.new now "" level event]
  | .built now level event settings => [settings.foldl Entry.set (.new now "" level event)]
  | .exported clock records => Entry.ofRecords clock records

/-- What a call gives back: the entry as written, or the number of records. -/
inductive Receipt where
  | entry (entry : Entry)
  | count (count : Nat)

/-- An entry with its run, and with a generated trace if it has none. -/
def Entry.filledIn
    (entry : Entry)
    (runId : String)
    (number : Nat) : Entry :=
  { entry with
    traceId := if entry.traceId = "" then Emitter.generatedTrace runId number else entry.traceId
    runId := some (entry.runId.getD runId) }

theorem Entry.traceId_filledIn
    (entry : Entry)
    (runId : String)
    (number : Nat) :
    (entry.filledIn runId number).traceId =
      if entry.traceId = "" then Emitter.generatedTrace runId number else entry.traceId :=
  rfl

/-- Entries as they are written, numbered from the first one. -/
def numbered
    (runId : String)
    (first : Nat)
    (entries : List Entry) : List Entry :=
  (entries.zipIdx first).map fun (entry, number) => entry.filledIn runId number

@[simp]
theorem length_numbered
    (runId : String)
    (first : Nat)
    (entries : List Entry) :
    (numbered runId first entries).length = entries.length := by
  rw [numbered, List.length_map, List.length_zipIdx]

theorem numbered_append
    (runId : String)
    (number : Nat)
    (first second : List Entry) :
    numbered runId number (first ++ second) =
      numbered runId number first ++ numbered runId (number + first.length) second := by
  rw [numbered, List.zipIdx_append, List.map_append]
  rfl

/-- What a call has to give back after so many entries. -/
def Emission.receipt
    (runId : String)
    (written : Nat)
    (emission : Emission) : Option Receipt :=
  match emission with
  | .exported _ records => some (.count records.length)
  | _ => (numbered runId (written + 1) emission.entries).head?.map .entry

/-- What a sequence of calls has to give back after so many entries. -/
def receipts
    (runId : String) : Nat → List Emission → List (Option Receipt)
  | _, [] => []
  | written, emission :: rest =>
      emission.receipt runId written ::
        receipts runId (written + emission.entries.length) rest

namespace Emitter

section

variable {σ : Type} [Sink σ]

/-- Make a call. -/
def perform
    (emitter : Emitter σ) : Emission → Option Receipt × Emitter σ
  | .plain now level event =>
      let (entry, emitter) := emitter.emit now level event
      (entry.map .entry, emitter)
  | .built now level event settings =>
      let (entry, emitter) :=
        emitter.emitEntry (settings.foldl Entry.set (.new now "" level event))
      (entry.map .entry, emitter)
  | .exported clock records =>
      let (count, emitter) := emitter.emitRecords clock records
      (count.map .count, emitter)

def performAll
    (emitter : Emitter σ) : List Emission → List (Option Receipt) × Emitter σ
  | [] => ([], emitter)
  | emission :: rest =>
      let (receipt, emitter) := emitter.perform emission
      let (receipts, emitter) := emitter.performAll rest
      (receipt :: receipts, emitter)

end

/-- The emitter after entries. -/
def after
    (emitter : Emitter TextBuffer)
    (entries : List Entry) : Emitter TextBuffer where
  runId := emitter.runId
  sequence := emitter.sequence + entries.length
  sink := ⟨emitter.sink.text ++
    journalText (numbered emitter.runId (emitter.sequence + 1) entries)⟩

theorem after_nil (emitter : Emitter TextBuffer) : emitter.after [] = emitter := by
  simp [after, numbered, journalText]

theorem after_after
    (emitter : Emitter TextBuffer)
    (first second : List Entry) :
    (emitter.after first).after second = emitter.after (first ++ second) := by
  simp only [after, numbered_append, journalText_append, String.append_assoc, List.length_append,
    Nat.add_assoc, Nat.add_comm 1]

theorem emitEntry_eq
    (emitter : Emitter TextBuffer)
    (entry : Entry) :
    emitter.emitEntry entry =
      (some (entry.filledIn emitter.runId (emitter.sequence + 1)), emitter.after [entry]) := by
  have text : journalText [entry.filledIn emitter.runId (emitter.sequence + 1)] =
      (entry.filledIn emitter.runId (emitter.sequence + 1)).line ++ "\n" := by
    simp [journalText]
  have same : emitter.after [entry] = ⟨emitter.runId, emitter.sequence + 1,
      ⟨emitter.sink.text ++ (entry.filledIn emitter.runId (emitter.sequence + 1)).line ++
        "\n"⟩⟩ := by
    rw [String.append_assoc, ← text]
    rfl
  rw [same]
  rfl

theorem emitRecords_eq
    (emitter : Emitter TextBuffer)
    (clock : Clock)
    (records : List Log.Record) :
    emitter.emitRecords clock records =
      (some records.length, emitter.after (Entry.ofRecords clock records)) := by
  induction records generalizing emitter clock with
  | nil =>
      rw [Entry.ofRecords, after_nil]
      rfl
  | cons record rest inductionHypothesis =>
      rw [emitRecords, emitEntry_eq]
      dsimp only
      rw [inductionHypothesis, after_after]
      rfl

theorem perform_eq
    (emitter : Emitter TextBuffer)
    (emission : Emission) :
    emitter.perform emission =
      (emission.receipt emitter.runId emitter.sequence, emitter.after emission.entries) := by
  cases emission with
  | plain now level event =>
      rw [perform, emit, emitEntry_eq]
      rfl
  | built now level event settings =>
      rw [perform, emitEntry_eq]
      rfl
  | exported clock records =>
      rw [perform, emitRecords_eq]
      rfl

theorem performAll_eq
    (emitter : Emitter TextBuffer)
    (emissions : List Emission) :
    emitter.performAll emissions =
      (receipts emitter.runId emitter.sequence emissions,
       emitter.after (emissions.flatMap Emission.entries)) := by
  induction emissions generalizing emitter with
  | nil =>
      rw [List.flatMap_nil, after_nil]
      rfl
  | cons emission rest inductionHypothesis =>
      rw [performAll, perform_eq]
      dsimp only
      rw [inductionHypothesis, after_after, List.flatMap_cons]
      rfl

end Emitter

end TierHeap.Journal
