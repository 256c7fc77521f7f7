import TierHeap.Proofs.Journal.Emission

/-!
# Journals that are accepted

Whatever is emitted into memory, each entry is on a line of its own, every line is accepted and
read as the entry that was emitted, and no fault is found in the whole text
(`agrees`).  From the entry of a lifecycle record the record can be recovered
(`Entry.record?_filledIn`), and no trace is generated twice.
-/

namespace TierHeap.Journal

theorem occursIn_append
    (before wanted after : List Char) :
    occursIn wanted (before ++ wanted ++ after) = true := by
  induction before with
  | nil =>
      cases wanted with
      | nil =>
          cases after <;> simp [occursIn]
      | cons c wanted =>
          simp [occursIn]
  | cons c before inductionHypothesis =>
      rw [List.cons_append, List.cons_append, occursIn, inductionHypothesis, Bool.or_true]

theorem isHexMarked_address (addr : Nat) : isHexMarked (Text.address addr) = true := by
  rw [isHexMarked, Text.address, String.toList_append, List.isPrefixOf_iff_prefix]
  exact List.prefix_append _ _

/-- The trace of a record has parts, and its end is the number of the record. -/
theorem traceId_record (record : Log.Record) :
    record.traceId ≠ "" ∧ hasParts record.traceId = true ∧
      endsInDecision record.traceId record.decisionId = true := by
  have isTrace : record.traceId =
      "core::tiermem::" ++ record.event.symbol ++ "::" ++
        Text.hexPadded 16 record.decisionId := rfl
  have parts : record.traceId.toList = ['c', 'o', 'r', 'e'] ++ traceMark ++
      ("tiermem::" ++ record.event.symbol ++ "::" ++
        Text.hexPadded 16 record.decisionId).toList := by
    rw [isTrace]
    simp [traceMark]
  refine ⟨?_, ?_, ?_⟩
  · intro empty
    rw [empty] at parts
    cases parts
  · rw [hasParts, parts]
    exact occursIn_append _ _ _
  · rw [endsInDecision, List.isSuffixOf_iff_suffix, isTrace, String.toList_append]
    exact List.suffix_append _ _

/-- A generated trace has parts, and is not that of an engine. -/
theorem generatedTrace_parts
    (runId : String)
    (number : Nat) :
    hasParts (Emitter.generatedTrace runId number) = true ∧
      isEngineTrace (Emitter.generatedTrace runId number) = false := by
  have parts : (Emitter.generatedTrace runId number).toList =
      ['h', 'a', 'r', 'n', 'e', 's', 's'] ++ traceMark ++
        (runId ++ "::" ++ Text.decimalPadded 3 number).toList := by
    simp [Emitter.generatedTrace, traceMark]
  constructor
  · rw [hasParts, parts]
    exact occursIn_append _ _ _
  · rw [isEngineTrace, parts]
    rfl

/-- Traces of one run are generated from different numbers. -/
theorem generatedTrace_injective (runId : String) :
    Function.Injective (Emitter.generatedTrace runId) := by
  intro n m same
  apply Text.decimalPadded_injective 3
  simpa [Emitter.generatedTrace] using same

namespace Entry

/-- An entry follows the rules as soon as its run and a missing trace are filled in, if its
numbers are words. -/
structure Ready (entry : Entry) : Prop where
  traced : entry.traceId = "" ∨ hasParts entry.traceId = true ∧
    ∀ id ∈ entry.decisionId, endsInDecision entry.traceId id = true
  marked : ∀ addr ∈ entry.addr, isHexMarked addr = true
  details : ∀ value ∈ entry.details, ∃ text, value = .string text

theorem Ready.filledIn
    {entry : Entry}
    (ready : entry.Ready)
    (words : ∀ n ∈ entry.naturals, n < Word.bound)
    (runId : String)
    (number : Nat) :
    (entry.filledIn runId number).Proper := by
  obtain ⟨parted, noEngine⟩ := generatedTrace_parts runId number
  refine ⟨?_, fun id isId => ?_, ready.marked, words, fun value isHeld => ?_⟩
  · rw [Entry.traceId_filledIn]
    split
    · exact parted
    · rename_i given
      exact (ready.traced.resolve_left given).1
  · rw [Entry.traceId_filledIn]
    split
    · rw [noEngine]
      exact fun isTrue => absurd isTrue Bool.false_ne_true
    · rename_i given
      exact fun _ => (ready.traced.resolve_left given).2 id isId
  · obtain ⟨text, rfl⟩ := ready.details value isHeld
    rw [Json.Fits, Json.canonical]
    exact ⟨trivial, rfl, by simp⟩

theorem ready_new
    (now : Instant)
    (level : Log.Level)
    (event : String) :
    (new now "" level event).Ready :=
  ⟨.inl rfl, by rintro _ ⟨⟩, by rintro _ ⟨⟩⟩

/-- Settings keep an entry without a trace ready. -/
theorem Ready.set
    {entry : Entry}
    (ready : entry.Ready)
    (noTrace : entry.traceId = "")
    (setting : Setting) :
    (entry.set setting).Ready ∧ (entry.set setting).traceId = "" := by
  cases setting with
  | addr addr =>
      refine ⟨⟨.inl noTrace, ?_, ready.details⟩, noTrace⟩
      rintro _ ⟨⟩
      exact isHexMarked_address addr
  | _ =>
      exact ⟨⟨.inl noTrace, ready.marked, ready.details⟩, noTrace⟩

theorem Ready.foldl_set
    {entry : Entry}
    (ready : entry.Ready)
    (noTrace : entry.traceId = "")
    (settings : List Setting) :
    (settings.foldl Entry.set entry).Ready := by
  induction settings generalizing entry with
  | nil =>
      exact ready
  | cons setting rest inductionHypothesis =>
      obtain ⟨readyAfter, noTraceAfter⟩ := ready.set noTrace setting
      exact inductionHypothesis readyAfter noTraceAfter

theorem ready_ofRecord
    (now : Instant)
    (record : Log.Record) :
    (ofRecord now record).Ready := by
  obtain ⟨-, parted, decided⟩ := traceId_record record
  refine ⟨.inr ⟨parted, ?_⟩, fun addr isAddr => ?_, fun value isHeld => ?_⟩
  · rintro _ ⟨⟩
    exact decided
  · obtain ⟨addr, -, rfl⟩ := Option.map_eq_some_iff.mp isAddr
    exact isHexMarked_address addr
  · change (if record.event.details = "" then none else _) = some value at isHeld
    split at isHeld
    · cases isHeld
    · cases isHeld
      exact ⟨_, rfl⟩

def record? (entry : Entry) : Option Log.Record := do
  let decisionId ← entry.decisionId
  let symbol ← entry.symbol
  let outcome ← entry.outcome
  let addr ← entry.addr.mapM Text.address?
  let liveBlocks ← entry.liveBlocks
  let outstandingBytes ← entry.outstandingBytes
  let details ← (entry.details.getD (.string "")).string?
  let event : Log.Event :=
    ⟨symbol, entry.event, outcome, addr, entry.size, entry.tier, details⟩
  return ⟨decisionId, entry.level, event, liveBlocks, outstandingBytes⟩

/-- A record is recovered from its entry, and its trace is kept. -/
theorem record?_filledIn
    (now : Instant)
    (record : Log.Record)
    (runId : String)
    (number : Nat) :
    ((ofRecord now record).filledIn runId number).record? = some record ∧
      ((ofRecord now record).filledIn runId number).traceId = record.traceId := by
  constructor
  · have addr : (record.event.addr.map Text.address).mapM Text.address? =
        some record.event.addr := by
      cases record.event.addr with
      | none =>
          rfl
      | some addr =>
          simp [Text.address?_address]
    have details : ((ofRecord now record).details.getD (.string "")).string? =
        some record.event.details := by
      rw [ofRecord]
      dsimp only
      split
      · rename_i empty
        rw [empty]
        rfl
      · rfl
    rw [record?, Entry.filledIn]
    dsimp only [ofRecord, new] at details ⊢
    simp [addr, details]
  · have given : (ofRecord now record).traceId ≠ "" := (traceId_record record).1
    rw [Entry.traceId_filledIn, if_neg given]
    rfl

theorem ready_ofRecords
    (clock : Clock)
    (records : List Log.Record) :
    ∀ entry ∈ ofRecords clock records, entry.Ready := by
  induction records generalizing clock with
  | nil =>
      rintro entry ⟨⟩
  | cons record rest inductionHypothesis =>
      rw [ofRecords, List.forall_mem_cons]
      exact ⟨ready_ofRecord clock.now record, inductionHypothesis clock.tick⟩

/-- Whatever the clock shows, the records are recovered. -/
theorem recovered_numbered
    (clock : Clock)
    (records : List Log.Record)
    (runId : String)
    (number : Nat) :
    (numbered runId number (ofRecords clock records)).map record? = records.map some ∧
      (numbered runId number (ofRecords clock records)).map Entry.traceId =
        records.map Log.Record.traceId := by
  induction records generalizing clock number with
  | nil =>
      exact ⟨rfl, rfl⟩
  | cons record rest inductionHypothesis =>
      obtain ⟨recovered, traced⟩ := record?_filledIn clock.now record runId number
      obtain ⟨others, otherTraces⟩ := inductionHypothesis clock.tick (number + 1)
      constructor
      · exact congrArg₂ List.cons recovered others
      · exact congrArg₂ List.cons traced otherTraces

end Entry

def Emission.Fits (emission : Emission) : Prop :=
  ∀ entry ∈ emission.entries, ∀ n ∈ entry.naturals, n < Word.bound

theorem Emission.ready (emission : Emission) : ∀ entry ∈ emission.entries, entry.Ready := by
  intro entry member
  cases emission with
  | plain now level event =>
      rw [List.mem_singleton.mp member]
      exact Entry.ready_new now level event
  | built now level event settings =>
      rw [List.mem_singleton.mp member]
      exact (Entry.ready_new now level event).foldl_set rfl settings
  | exported clock records =>
      exact Entry.ready_ofRecords clock records entry member

section Agreement

variable (runId : String) (emissions : List Emission)

def emitted : List (Option Receipt) × Emitter TextBuffer :=
  (Emitter.new runId (TextBuffer.mk "")).performAll emissions

def written : List Entry :=
  numbered runId 1 (emissions.flatMap Emission.entries)

/-- The entries that have to be written for records after other calls. -/
def writtenRecords
    (before : List Emission)
    (records : List Log.Record) : List Entry :=
  ((written runId emissions).drop (before.flatMap Emission.entries).length).take records.length

def generatedTraces : List String :=
  ((emissions.flatMap Emission.entries).zipIdx 1).filterMap fun (entry, number) =>
    if entry.traceId = "" then some (entry.filledIn runId number).traceId else none

/-- What is emitted into memory is what is read from it. -/
structure Agrees : Prop where
  /-- No call fails, and each gives back what it has written. -/
  receipts : (emitted runId emissions).1 = receipts runId 0 emissions
  sequence : (emitted runId emissions).2.sequence = (written runId emissions).length
  lines : splitLines (emitted runId emissions).2.sink.text.toList =
    (written runId emissions).map fun entry => entry.line.toList
  accepted : ∀ entry ∈ written runId emissions, checkLine entry.line = .ok entry
  clean : checkText (emitted runId emissions).2.sink.text =
    ⟨(emitted runId emissions).2.sequence, []⟩
  /-- Also when the text is read as a file. -/
  cleanFile : checkBytes? (emitted runId emissions).2.sink.text.toByteArray.data.toList =
    some ⟨(emitted runId emissions).2.sequence, []⟩
  /-- From the entries of lifecycle records all of their fields are recovered. -/
  recovered : ∀ before clock records after,
    emissions = before ++ .exported clock records :: after →
      (writtenRecords runId emissions before records).map Entry.record? = records.map some ∧
        (writtenRecords runId emissions before records).map Entry.traceId =
          records.map Log.Record.traceId
  distinct : (generatedTraces runId emissions).Nodup

theorem nodup_generatedTraces : (generatedTraces runId emissions).Nodup := by
  have numbers : (((emissions.flatMap Emission.entries).zipIdx 1).map Prod.snd).Nodup := by
    rw [List.zipIdx_map_snd]
    exact List.nodup_range'
  rw [List.Nodup, List.pairwise_map] at numbers
  rw [generatedTraces, List.Nodup, List.pairwise_filterMap]
  -- The entries may be the same: it is their numbers that tell the traces apart.
  have generated {numbered : Entry × Nat} {trace : String}
      (isTrace : (if numbered.1.traceId = "" then
        some (numbered.1.filledIn runId numbered.2).traceId else none) = some trace) :
      trace = Emitter.generatedTrace runId numbered.2 := by
    split at isTrace
    · rename_i missing
      cases isTrace
      exact if_pos missing
    · cases isTrace
  refine numbers.imp fun different trace isTrace other isOther same => different ?_
  rw [generated isTrace, generated isOther] at same
  exact generatedTrace_injective runId same

theorem writtenRecords_eq
    (before : List Emission)
    (clock : Clock)
    (records : List Log.Record)
    (after : List Emission) :
    writtenRecords runId (before ++ .exported clock records :: after) before records =
      numbered runId (1 + (before.flatMap Emission.entries).length)
        (Entry.ofRecords clock records) := by
  have entries : (Emission.exported clock records).entries = Entry.ofRecords clock records := rfl
  rw [writtenRecords, written, List.flatMap_append, List.flatMap_cons, entries, numbered_append,
    numbered_append, List.drop_left' (length_numbered _ _ _),
    List.take_left' ((length_numbered _ _ _).trans (Entry.length_ofRecords clock records))]

variable {emissions}

/-- Whatever is emitted, the text is accepted, and the entries that were emitted are read from
its lines. -/
theorem agrees (fits : ∀ emission ∈ emissions, emission.Fits) : Agrees runId emissions := by
  have proper : ∀ entry ∈ written runId emissions, entry.Proper := by
    intro entry member
    obtain ⟨⟨given, number⟩, isNumbered, rfl⟩ := List.mem_map.mp member
    obtain ⟨emission, isEmission, isGiven⟩ :=
      List.mem_flatMap.mp (List.fst_mem_of_mem_zipIdx isNumbered)
    exact (emission.ready given isGiven).filledIn (fits emission isEmission given isGiven) runId
      number
  have performed := (Emitter.new runId (TextBuffer.mk "")).performAll_eq emissions
  have text : (emitted runId emissions).2.sink.text = journalText (written runId emissions) := by
    rw [emitted, performed]
    exact String.empty_append
  have sequence : (emitted runId emissions).2.sequence = (written runId emissions).length := by
    rw [emitted, performed, written, length_numbered]
    exact Nat.zero_add _
  refine ⟨?_, sequence, ?_, fun entry member => (proper entry member).checkLine_line, ?_, ?_, ?_,
    nodup_generatedTraces runId emissions⟩
  · rw [emitted, performed]
    rfl
  · rw [text, splitLines_journalText proper]
  · rw [text, sequence, checkText_journalText proper]
  · rw [checkBytes?_toByteArray, text, sequence, checkText_journalText proper]
  · rintro before clock records after rfl
    rw [writtenRecords_eq]
    exact Entry.recovered_numbered clock records runId _

end Agreement

/-- Emissions of every kind, with quotes, controls and other characters in their texts, and
with the largest word.  A second ends between two of the records; under the other records the
clock stands still. -/
def mixedEmissions : List Emission :=
  [.plain ⟨1700000000, 5000000⟩ .info "start \"now\"\n",
    .exported ⟨⟨1700000000, 999999999⟩, [⟨1700000001, 0⟩]⟩
      [⟨1, .debug, ⟨"allocate", "alloc", "success", some 0x7f00a0, some 64, some .cxl, ""⟩, 1, 64⟩,
        ⟨2, .warn, ⟨"free", "unknown_address", "rejected", some 0, none, none, "no\tblock\\"⟩,
          1, 64⟩],
    .built ⟨-1, 0⟩ .error "\u03a9\u2028\x07"
      [.addr 255, .size Word.largest, .run "other", .artifacts ["a", ""], .decisionId 7],
    .exported (Instant.mk 1700000002 0)
      [⟨3, .info, ⟨"free", "free", "success", some 0x7f00a0, some 64, some .cxl, ""⟩, 0, 0⟩,
        ⟨4, .error, ⟨"trim", "release_failed", "kept", none, none, some .host, "\u2026"⟩, 0, 0⟩]]

theorem agrees_mixedEmissions :
    (∀ emission ∈ mixedEmissions, emission.Fits) ∧ Agrees "run::\r7" mixedEmissions := by
  have fits : ∀ emission ∈ mixedEmissions, emission.Fits := by
    unfold Emission.Fits
    decide
  exact ⟨fits, agrees "run::\r7" fits⟩

end TierHeap.Journal
