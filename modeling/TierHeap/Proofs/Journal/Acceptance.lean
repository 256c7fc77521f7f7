import TierHeap.Proofs.Journal.Entries
import TierHeap.Proofs.Json.Results

/-!
# Accepted lines

A line that is accepted is an object without a fault whose members hold the fields of the entry
(`accepted_of_checkLine`).  Its own line is accepted as the same entry again, whatever the order,
the blanks and the unknown fields of the first one were (`checkLine_line_of_accepted`).
-/

namespace TierHeap

namespace Json

theorem string?_eq_some_iff
    {value : Json}
    {text : String} :
    value.string? = some text ↔ value = .string text := by
  cases value <;> simp [string?]

theorem nat?_eq_some_iff
    {value : Json}
    {n : Nat} :
    value.nat? = some n ↔ value = .nat n := by
  rw [nat]
  rcases value with _ | _ | (_ | _ | _) | _ | _ | _ <;> simp [nat?]

end Json

namespace Journal

namespace Entry

section Reading

variable {α : Type} {members : List (String × Json)} {key : String} {decode : Json → Option α}

theorem required?_eq_some_iff {held : α} :
    required? members key decode = some held ↔
      ∃ value, members.lookup key = some value ∧ decode value = some held := by
  rw [required?, Option.bind_eq_some_iff]

theorem optional?_eq_some_iff {held : Option α} :
    optional? members key decode = some held ↔
      (held = none ∧ (members.lookup key = none ∨ members.lookup key = some .null)) ∨
        ∃ value, members.lookup key = some value ∧ value ≠ .null ∧
          (decode value).map some = some held := by
  rw [optional?]
  split
  · rename_i absent
    simp [absent, eq_comm]
  · rename_i null
    simp [null, eq_comm]
  · rename_i value notNull present
    have notNull : value ≠ .null := notNull
    simp [present, notNull]

theorem string_of_required?
    {text : String}
    (read : required? members key Json.string? = some text) :
    members.lookup key = some (.string text) := by
  obtain ⟨value, found, string⟩ := required?_eq_some_iff.mp read
  rw [found, Json.string?_eq_some_iff.mp string]

/-- A field that is neither absent nor null has been decoded. -/
theorem found_of_optional?
    {held : Option α}
    (read : optional? members key decode = some held)
    {present : α}
    (isPresent : present ∈ held) :
    ∃ value, members.lookup key = some value ∧ value ≠ .null ∧ decode value = some present := by
  rcases optional?_eq_some_iff.mp read with ⟨rfl, -⟩ | ⟨value, found, notNull, decoded⟩
  · cases isPresent
  · obtain ⟨decoded, isDecoded, rfl⟩ := Option.map_eq_some_iff.mp decoded
    cases isPresent
    exact ⟨value, found, notNull, isDecoded⟩

theorem string_of_optional?
    {held : Option String}
    (read : optional? members key Json.string? = some held)
    {text : String}
    (isHeld : text ∈ held) :
    members.lookup key = some (.string text) := by
  obtain ⟨value, found, -, string⟩ := found_of_optional? read isHeld
  rw [found, Json.string?_eq_some_iff.mp string]

theorem natural_of_optional?
    {held : Option Nat}
    (read : optional? members key Json.nat? = some held)
    {n : Nat}
    (isHeld : n ∈ held) :
    members.lookup key = some (.nat n) := by
  obtain ⟨value, found, -, natural⟩ := found_of_optional? read isHeld
  rw [found, Json.nat?_eq_some_iff.mp natural]

end Reading

/-- The fields of the entry are what is read from the members. -/
structure Reads
    (members : List (String × Json))
    (entry : Entry) : Prop where
  timestamp : required? members "timestamp" Json.string? = some entry.timestamp
  traceId : required? members "trace_id" Json.string? = some entry.traceId
  level : required? members "level" level? = some entry.level
  event : required? members "event" Json.string? = some entry.event
  runId : optional? members "run_id" Json.string? = some entry.runId
  decisionId : optional? members "decision_id" Json.nat? = some entry.decisionId
  symbol : optional? members "symbol" Json.string? = some entry.symbol
  tier : optional? members "tier" tier? = some entry.tier
  mode : optional? members "mode" tier? = some entry.mode
  addr : optional? members "addr" Json.string? = some entry.addr
  size : optional? members "size" Json.nat? = some entry.size
  outcome : optional? members "outcome" Json.string? = some entry.outcome
  liveBlocks : optional? members "live_blocks" Json.nat? = some entry.liveBlocks
  outstandingBytes : optional? members "outstanding_bytes" Json.nat? = some entry.outstandingBytes
  durationMs : optional? members "duration_ms" Json.nat? = some entry.durationMs
  artifactRefs : optional? members "artifact_refs" strings? = some entry.artifactRefs
  details : optional? members "details" some = some entry.details

theorem reads_of_ofMembers?
    {members : List (String × Json)}
    {entry : Entry}
    (read : ofMembers? members = some entry) :
    Reads members entry := by
  rw [ofMembers?] at read
  obtain ⟨timestamp, isTimestamp, read⟩ := Option.bind_eq_some_iff.mp read
  obtain ⟨traceId, isTraceId, read⟩ := Option.bind_eq_some_iff.mp read
  obtain ⟨level, isLevel, read⟩ := Option.bind_eq_some_iff.mp read
  obtain ⟨event, isEvent, read⟩ := Option.bind_eq_some_iff.mp read
  obtain ⟨runId, isRunId, read⟩ := Option.bind_eq_some_iff.mp read
  obtain ⟨decisionId, isDecisionId, read⟩ := Option.bind_eq_some_iff.mp read
  obtain ⟨symbol, isSymbol, read⟩ := Option.bind_eq_some_iff.mp read
  obtain ⟨tier, isTier, read⟩ := Option.bind_eq_some_iff.mp read
  obtain ⟨mode, isMode, read⟩ := Option.bind_eq_some_iff.mp read
  obtain ⟨addr, isAddr, read⟩ := Option.bind_eq_some_iff.mp read
  obtain ⟨size, isSize, read⟩ := Option.bind_eq_some_iff.mp read
  obtain ⟨outcome, isOutcome, read⟩ := Option.bind_eq_some_iff.mp read
  obtain ⟨liveBlocks, isLiveBlocks, read⟩ := Option.bind_eq_some_iff.mp read
  obtain ⟨outstandingBytes, isOutstandingBytes, read⟩ := Option.bind_eq_some_iff.mp read
  obtain ⟨durationMs, isDurationMs, read⟩ := Option.bind_eq_some_iff.mp read
  obtain ⟨artifactRefs, isArtifactRefs, read⟩ := Option.bind_eq_some_iff.mp read
  obtain ⟨details, isDetails, read⟩ := Option.bind_eq_some_iff.mp read
  cases read
  constructor <;> assumption

end Entry

theorem follows_of_ruleFaults_eq_nil
    {members : List (String × Json)}
    {field : String}
    {rule : String → Bool}
    {fault : String → Fault}
    (faultless : ruleFaults members field rule fault = []) :
    ∀ text, members.lookup field = some (.string text) → rule text = true := by
  intro text found
  have held : stringAt? members field = some text := by
    rw [stringAt?, found]
    rfl
  rw [ruleFaults, held] at faultless
  by_contra broken
  simp [broken] at faultless

/-- What the rules of a journal ask of the members of an object. -/
structure Faultless (members : List (String × Json)) : Prop where
  level : ∀ text, members.lookup "level" = some (.string text) →
    (Log.Level.ofName? text).isSome = true
  tier : ∀ text, members.lookup "tier" = some (.string text) → (Tier.ofName? text).isSome = true
  mode : ∀ text, members.lookup "mode" = some (.string text) → (Tier.ofName? text).isSome = true
  addr : ∀ text, members.lookup "addr" = some (.string text) → isHexMarked text = true
  traceId : ∀ text, members.lookup "trace_id" = some (.string text) → hasParts text = true
  /-- The trace of an engine record ends in its decision number. -/
  decision : ∀ id text, members.lookup "decision_id" = some (.nat id) →
    members.lookup "trace_id" = some (.string text) →
      isEngineTrace text = true → endsInDecision text id = true

theorem faultless_of_memberFaults
    {members : List (String × Json)}
    (none : memberFaults members = []) :
    Faultless members := by
  simp only [memberFaults, List.append_eq_nil_iff] at none
  obtain ⟨⟨⟨⟨⟨⟨-, level⟩, tier⟩, mode⟩, addr⟩, traceId⟩, decision⟩ := none
  refine ⟨follows_of_ruleFaults_eq_nil level, follows_of_ruleFaults_eq_nil tier,
    follows_of_ruleFaults_eq_nil mode, follows_of_ruleFaults_eq_nil addr,
    follows_of_ruleFaults_eq_nil traceId, ?_⟩
  intro id text isId isText engine
  rw [decisionFaults, stringAt?, isId, isText] at decision
  by_contra stray
  have reported : endsInDecision text id = false := by simpa using stray
  simp [Json.nat, Json.nat?, Json.string?, engine, reported] at decision

/-- The line is an object that follows the rules and holds the fields of the entry. -/
structure Accepted
    (line : String)
    (entry : Entry)
    (members : List (String × Json)) : Prop where
  object : Json.readCanonical? line = some (.object members)
  faultless : Faultless members
  reads : entry.Reads members

theorem accepted_of_checkLine
    {line : String}
    {entry : Entry}
    (checked : checkLine line = .ok entry) :
    ∃ members, Accepted line entry members := by
  rw [checkLine] at checked
  split at checked
  · cases checked
  · rename_i members object
    rw [checkMembers] at checked
    split at checked
    · rename_i none
      split at checked
      · rename_i read
        cases checked
        exact ⟨members, object, faultless_of_memberFaults none, Entry.reads_of_ofMembers? read⟩
      · cases checked
    · cases checked
  · cases checked

namespace Accepted

variable {line : String} {entry : Entry} {members : List (String × Json)}

/-- What is found under a key is admitted inside the object, and is in dictionary form. -/
theorem found
    (accepted : Accepted line entry members)
    {key : String}
    {value : Json}
    (found : members.lookup key = some value) :
    value.Admitted (Json.Reader.maxDepth - 1) ∧ value.canonical = value := by
  obtain ⟨before, after, rfl, -⟩ := List.lookup_eq_some_iff.mp found
  have isMember : (key, value) ∈ before ++ (key, value) :: after := by simp
  exact Json.member_of_readCanonical? accepted.object isMember

theorem naturals
    (accepted : Accepted line entry members)
    {n : Nat}
    (isNatural : n ∈ entry.naturals) :
    n < Word.bound := by
  have reads := accepted.reads
  have bounded {key : String} (isFound : members.lookup key = some (.nat n)) : n < Word.bound :=
    (accepted.found isFound).1.inRange (.natural n) (by simp [Json.nat, Json.numbers])
  simp only [Entry.naturals, List.mem_append, Option.mem_toList] at isNatural
  rcases isNatural with (((decisionId | size) | liveBlocks) | outstandingBytes) | durationMs
  · exact bounded (Entry.natural_of_optional? reads.decisionId decisionId)
  · exact bounded (Entry.natural_of_optional? reads.size size)
  · exact bounded (Entry.natural_of_optional? reads.liveBlocks liveBlocks)
  · exact bounded (Entry.natural_of_optional? reads.outstandingBytes outstandingBytes)
  · exact bounded (Entry.natural_of_optional? reads.durationMs durationMs)

/-- An accepted entry follows the rules, and without a double in its details all its values
are read as themselves. -/
theorem proper
    (accepted : Accepted line entry members)
    (doubleFree : ∀ value ∈ entry.details, value.DoubleFree) :
    entry.Proper := by
  have reads := accepted.reads
  have traceId := Entry.string_of_required? reads.traceId
  refine ⟨accepted.faultless.traceId _ traceId, fun id isId engine => ?_, fun addr isAddr => ?_,
    fun n isNatural => accepted.naturals isNatural, fun value isDetails => ?_⟩
  · exact accepted.faultless.decision id _
      (Entry.natural_of_optional? reads.decisionId isId) traceId engine
  · exact accepted.faultless.addr addr (Entry.string_of_optional? reads.addr isAddr)
  · obtain ⟨_, isFound, notNull, same⟩ := Entry.found_of_optional? reads.details isDetails
    cases same
    obtain ⟨admitted, canonical⟩ := accepted.found isFound
    exact ⟨admitted.fits (doubleFree value isDetails), canonical, notNull⟩

end Accepted

/-- The line of an entry that has been accepted is accepted as the same entry. -/
theorem checkLine_line_of_accepted
    {line : String}
    {entry : Entry}
    (checked : checkLine line = .ok entry)
    (doubleFree : ∀ value ∈ entry.details, value.DoubleFree) :
    checkLine entry.line = .ok entry := by
  obtain ⟨members, accepted⟩ := accepted_of_checkLine checked
  exact (accepted.proper doubleFree).checkLine_line

/-- A result of which something is shown is one. -/
theorem ok_of_map_toOption
    {ε α γ : Type}
    {result : Except ε α}
    {view : α → γ}
    {shown : γ}
    (shows : result.toOption.map view = some shown) :
    ∃ value, result = .ok value ∧ view value = shown := by
  cases result with
  | error err =>
      cases shows
  | ok value =>
      exact ⟨value, rfl, Option.some.inj shows⟩

/-- A line with its fields in disorder, an unknown one, one that is written twice, a null, a
label as an object, blanks and an escape. -/
def untidyLine : String :=
  " \x7b \"zone\":[1.5], \"event\":\"lost\", \"level\":\x7b\"warn\":null\x7d," ++
    "\t\"event\":\"mov\\u0065d\"," ++
    "\"decision_id\":10, \"trace_id\":\"core::a::000000000000000a\", \"run_id\":null," ++
    "\"timestamp\":\"t\", \"details\":\x7b\"b\":[-1, \x7b\x7d], \"a\":0, \"b\":[2]\x7d \x7d "

/-- What is accepted of this line is accepted again from the line of the entry. -/
theorem checkLine_line_untidyLine :
    ∃ entry, checkLine untidyLine = .ok entry ∧ entry.event = "moved" ∧
      entry.line ≠ untidyLine ∧ checkLine entry.line = .ok entry := by
  have shown :
      (checkLine untidyLine).toOption.map
          (fun entry => (entry.event, entry.details.map Json.numbers, entry.line)) =
        some ("moved", some [.natural 0, .natural 2],
          "\x7b\"timestamp\":\"t\",\"trace_id\":\"core::a::000000000000000a\"," ++
            "\"level\":\"warn\",\"event\":\"moved\",\"decision_id\":10," ++
            "\"details\":\x7b\"a\":0,\"b\":[2]\x7d\x7d") := by
    decide +kernel
  obtain ⟨entry, checked, view⟩ := ok_of_map_toOption shown
  simp only [Prod.mk.injEq] at view
  obtain ⟨event, numbers, text⟩ := view
  refine ⟨entry, checked, event, ?_, checkLine_line_of_accepted checked fun value held => ?_⟩
  · rw [text]
    decide
  · rw [Option.mem_def.mp held, Option.map_some, Option.some.injEq] at numbers
    simp [Json.DoubleFree, numbers]

end Journal

end TierHeap
