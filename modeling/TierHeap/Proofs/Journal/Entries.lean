import TierHeap.Journal.Check
import TierHeap.Proofs.Json.Members
import TierHeap.Proofs.Json.Reading

/-!
# Entries that are read back

The line of an entry that follows the rules of a journal is accepted, and the entry that is read
from it is the same again (`Entry.Proper.checkLine_line`).
-/

namespace TierHeap.Journal

namespace Entry

section Field

variable {α : Type} (key : String) (encode : α → Json) (value : Option α)

theorem lookup_field (wanted : String) :
    (field key encode value).lookup wanted = if wanted = key then value.map encode else none := by
  cases value with
  | none =>
      simp [field]
  | some value =>
      exact Json.lookup_cons key (encode value) [] wanted

theorem keys_field : ((field key encode value).map Prod.fst).Sublist [key] := by
  cases value with
  | none =>
      exact List.nil_sublist [key]
  | some value =>
      exact List.Sublist.refl [key]

theorem forall_mem_field {P : Json → Prop} :
    (∀ member ∈ field key encode value, P member.2) ↔ ∀ held ∈ value, P (encode held) := by
  cases value <;> simp [field]

end Field

def naturals (entry : Entry) : List Nat :=
  entry.decisionId.toList ++ entry.size.toList ++ entry.liveBlocks.toList ++
    entry.outstandingBytes.toList ++ entry.durationMs.toList

/-- A property of strings, of the numbers of an entry, of lists of strings and of its details
is a property of all its members. -/
theorem forall_mem_members
    (entry : Entry)
    {P : Json → Prop}
    (strings : ∀ text, P (.string text))
    (naturals : ∀ n ∈ entry.naturals, P (.nat n))
    (lists : ∀ texts, P (Json.ofList .string texts))
    (details : ∀ value ∈ entry.details, P value) :
    ∀ member ∈ entry.members, P member.2 := by
  simp only [Entry.naturals, List.mem_append, Option.mem_toList, or_imp, forall_and] at naturals
  obtain ⟨⟨⟨⟨decisionId, size⟩, liveBlocks⟩, outstandingBytes⟩, durationMs⟩ := naturals
  simp only [members, List.mem_append, or_imp, forall_and, forall_mem_field, tierJson]
  have text {value : Option String} : ∀ held ∈ value, P (.string held) := fun held _ => strings held
  have tierName {value : Option Tier} : ∀ held ∈ value, P (.string held.name) :=
    fun held _ => strings held.name
  exact ⟨⟨⟨⟨⟨⟨⟨⟨⟨⟨⟨⟨⟨by simp [strings], text⟩, decisionId⟩, text⟩, tierName⟩, tierName⟩, text⟩,
    size⟩, text⟩, liveBlocks⟩, outstandingBytes⟩, durationMs⟩, fun texts _ => lists texts⟩, details⟩

/-- No key occurs twice. -/
theorem nodup_keys (entry : Entry) : (entry.members.map Prod.fst).Nodup := by
  -- A field that is absent leaves out its key, the order is always the same.
  have sublist : (entry.members.map Prod.fst).Sublist
      ["timestamp", "trace_id", "level", "event", "run_id", "decision_id", "symbol", "tier",
        "mode", "addr", "size", "outcome", "live_blocks", "outstanding_bytes", "duration_ms",
        "artifact_refs", "details"] := by
    simp only [members, List.map_append]
    exact (List.Sublist.refl ["timestamp", "trace_id", "level", "event"])
      |>.append (keys_field _ _ _) |>.append (keys_field _ _ _) |>.append (keys_field _ _ _)
      |>.append (keys_field _ _ _) |>.append (keys_field _ _ _) |>.append (keys_field _ _ _)
      |>.append (keys_field _ _ _) |>.append (keys_field _ _ _) |>.append (keys_field _ _ _)
      |>.append (keys_field _ _ _) |>.append (keys_field _ _ _) |>.append (keys_field _ _ _)
      |>.append (keys_field _ _ _)
  exact sublist.nodup (by decide)

/-- Each field of an entry is found by its key. -/
structure Held
    (members : List (String × Json))
    (entry : Entry) : Prop where
  timestamp : members.lookup "timestamp" = some (.string entry.timestamp)
  traceId : members.lookup "trace_id" = some (.string entry.traceId)
  level : members.lookup "level" = some (.string entry.level.name)
  event : members.lookup "event" = some (.string entry.event)
  runId : members.lookup "run_id" = entry.runId.map .string
  decisionId : members.lookup "decision_id" = entry.decisionId.map .nat
  symbol : members.lookup "symbol" = entry.symbol.map .string
  tier : members.lookup "tier" = entry.tier.map tierJson
  mode : members.lookup "mode" = entry.mode.map tierJson
  addr : members.lookup "addr" = entry.addr.map .string
  size : members.lookup "size" = entry.size.map .nat
  outcome : members.lookup "outcome" = entry.outcome.map .string
  liveBlocks : members.lookup "live_blocks" = entry.liveBlocks.map .nat
  outstandingBytes : members.lookup "outstanding_bytes" = entry.outstandingBytes.map .nat
  durationMs : members.lookup "duration_ms" = entry.durationMs.map .nat
  artifactRefs : members.lookup "artifact_refs" = entry.artifactRefs.map (Json.ofList .string)
  details : members.lookup "details" = entry.details.map id

/-- The fields are found after the members are put in order. -/
theorem held_sortMembers (entry : Entry) : Held (Json.sortMembers entry.members) entry := by
  constructor <;>
    rw [Json.lookup_sortMembers entry.nodup_keys] <;>
    simp [members, List.lookup_append, lookup_field, Json.lookup_cons]

section Reading

variable {α : Type} {members : List (String × Json)} {key : String} {decode : Json → Option α}

theorem required?_eq_some
    {value : Json}
    {held : α}
    (found : members.lookup key = some value)
    (read : decode value = some held) :
    required? members key decode = some held := by
  rw [required?, found]
  exact read

theorem optional?_eq_some
    {encode : α → Json}
    {value : Option α}
    (found : members.lookup key = value.map encode)
    (read : ∀ held ∈ value, encode held ≠ .null ∧ decode (encode held) = some held) :
    optional? members key decode = some value := by
  rw [optional?, found]
  cases value with
  | none =>
      rfl
  | some held =>
      obtain ⟨notNull, decoded⟩ := read held rfl
      rw [Option.map_some]
      split
      · rename_i absent
        cases absent
      · rename_i null
        exact absurd (Option.some.inj null) notNull
      · rename_i present
        cases present
        rw [decoded]
        rfl

end Reading

theorem level?_name (level : Log.Level) : level? (.string level.name) = some level := by
  cases level <;> decide

theorem tier?_tierJson (tier : Tier) : tier? (tierJson tier) = some tier := by
  cases tier <;> decide

theorem strings?_ofList (texts : List String) :
    strings? (Json.ofList .string texts) = some texts := by
  change (texts.map Json.string).mapM Json.string? = some texts
  induction texts with
  | nil =>
      rfl
  | cons text rest inductionHypothesis =>
      rw [List.map_cons, List.mapM_cons, inductionHypothesis]
      rfl

/-- Where the fields of an entry are found, this entry is read; null would be taken for an
absent field. -/
theorem Held.ofMembers?
    {members : List (String × Json)}
    {entry : Entry}
    (held : Held members entry)
    (notNull : ∀ value ∈ entry.details, value ≠ .null) :
    ofMembers? members = some entry := by
  have required {key text : String} (found : members.lookup key = some (.string text)) :
      required? members key Json.string? = some text :=
    required?_eq_some found rfl
  have level : required? members "level" level? = some entry.level :=
    required?_eq_some held.level (level?_name entry.level)
  have text {key : String} {value : Option String}
      (found : members.lookup key = value.map .string) :
      optional? members key Json.string? = some value :=
    optional?_eq_some found fun _ _ => ⟨by simp, rfl⟩
  have natural {key : String} {value : Option Nat} (found : members.lookup key = value.map .nat) :
      optional? members key Json.nat? = some value :=
    optional?_eq_some found fun _ _ => ⟨by simp [Json.nat], rfl⟩
  have tier {key : String} {value : Option Tier}
      (found : members.lookup key = value.map tierJson) :
      optional? members key tier? = some value :=
    optional?_eq_some found fun tier _ => ⟨by simp [tierJson], tier?_tierJson tier⟩
  have refs : optional? members "artifact_refs" strings? = some entry.artifactRefs :=
    optional?_eq_some held.artifactRefs fun texts _ =>
      ⟨by simp [Json.ofList], strings?_ofList texts⟩
  have details : optional? members "details" some = some entry.details :=
    optional?_eq_some held.details fun value isHeld => ⟨notNull value isHeld, rfl⟩
  rw [Entry.ofMembers?, required held.timestamp, required held.traceId, level,
    required held.event, text held.runId, natural held.decisionId, text held.symbol,
    tier held.tier, tier held.mode, text held.addr, natural held.size, text held.outcome,
    natural held.liveBlocks, natural held.outstandingBytes, natural held.durationMs, refs, details]
  rfl

end Entry

section Rules

variable {members : List (String × Json)}

theorem ruleFaults_eq_nil
    {field : String}
    {rule : String → Bool}
    {fault : String → Fault}
    (follows : ∀ text ∈ stringAt? members field, rule text = true) :
    ruleFaults members field rule fault = [] := by
  rw [ruleFaults]
  split
  · rfl
  · rename_i text found
    rw [if_pos (follows text found)]

end Rules

namespace Entry

/-- An entry that follows the rules of a journal, and whose values are read as themselves. -/
structure Proper (entry : Entry) : Prop where
  parted : hasParts entry.traceId = true
  /-- The trace of an engine record ends in its decision number. -/
  decided : ∀ id ∈ entry.decisionId, isEngineTrace entry.traceId = true →
    endsInDecision entry.traceId id = true
  marked : ∀ addr ∈ entry.addr, isHexMarked addr = true
  naturals : ∀ n ∈ entry.naturals, n < Word.bound
  /-- The object of the entry is open around its details. -/
  details : ∀ value ∈ entry.details, value.Fits (Json.Reader.maxDepth - 1) ∧
    value.canonical = value ∧ value ≠ .null

/-- The members of an entry that follows the rules have no fault. -/
theorem Held.memberFaults_eq_nil
    {members : List (String × Json)}
    {entry : Entry}
    (held : Held members entry)
    (proper : entry.Proper) :
    memberFaults members = [] := by
  have text {key : String} {value : Option String}
      (found : members.lookup key = value.map .string) : stringAt? members key = value := by
    rw [stringAt?, found]
    cases value <;> rfl
  have tierName {key : String} {value : Option Tier}
      (found : members.lookup key = value.map tierJson) :
      ∀ name ∈ stringAt? members key, (Tier.ofName? name).isSome = true := by
    intro name isName
    rw [stringAt?, found] at isName
    cases value with
    | none =>
        cases isName
    | some tier =>
        cases isName
        cases tier <;> decide
  have traceId : stringAt? members "trace_id" = some entry.traceId := by
    rw [stringAt?, held.traceId]
    rfl
  have required : requiredFields.flatMap (missingFaults members) = [] := by
    simp [requiredFields, missingFaults, held.timestamp, held.traceId, held.level, held.event]
  have level : ∀ name ∈ stringAt? members "level", (Log.Level.ofName? name).isSome = true := by
    rw [stringAt?, held.level]
    rintro _ ⟨⟩
    cases entry.level <;> decide
  have parted : ∀ text ∈ stringAt? members "trace_id", hasParts text = true := by
    rw [traceId]
    rintro _ ⟨⟩
    exact proper.parted
  have marked : ∀ text ∈ stringAt? members "addr", isHexMarked text = true := by
    rw [text held.addr]
    exact proper.marked
  have decided : decisionFaults members = [] := by
    rw [decisionFaults, held.decisionId, traceId]
    cases known : entry.decisionId with
    | none =>
        rfl
    | some id =>
        refine if_neg fun stray => ?_
        rw [proper.decided id known stray.1] at stray
        cases stray.2
  rw [memberFaults, required, ruleFaults_eq_nil level, ruleFaults_eq_nil (tierName held.tier),
    ruleFaults_eq_nil (tierName held.mode), ruleFaults_eq_nil marked, ruleFaults_eq_nil parted,
    decided]
  rfl

end Entry

namespace Entry.Proper

variable {entry : Entry}

theorem fits (proper : entry.Proper) : entry.toJson.Fits Json.Reader.maxDepth := by
  rw [toJson, Json.Fits, Json.membersFit_iff]
  refine ⟨by decide,
    forall_mem_members entry (P := fun value => value.Fits (Json.Reader.maxDepth - 1)) ?_ ?_ ?_ ?_⟩
  · intro text
    rw [Json.Fits]
    exact trivial
  · intro n isNatural
    rw [Json.nat, Json.Fits]
    exact proper.naturals n isNatural
  · intro texts
    rw [Json.ofList, Json.Fits, Json.itemsFit_iff]
    refine ⟨by decide, fun item member => ?_⟩
    obtain ⟨text, -, rfl⟩ := List.mem_map.mp member
    rw [Json.Fits]
    exact trivial
  · exact fun value isHeld => (proper.details value isHeld).1

theorem canonicalMembers_eq (proper : entry.Proper) :
    Json.canonicalMembers entry.members = entry.members := by
  refine Json.canonicalMembers_eq_self
    (forall_mem_members entry (P := fun value => value.canonical = value) ?_ ?_ ?_ ?_)
  · intro text
    rw [Json.canonical]
  · intro n _
    rw [Json.nat, Json.canonical]
  · intro texts
    rw [Json.ofList, Json.canonical, Json.canonicalItems_eq_self]
    intro item member
    obtain ⟨text, -, rfl⟩ := List.mem_map.mp member
    rw [Json.canonical]
  · exact fun value isHeld => (proper.details value isHeld).2.1

/-- The line of an entry that follows the rules is accepted and read as the same entry. -/
theorem checkLine_line (proper : entry.Proper) : checkLine entry.line = .ok entry := by
  -- What is read is the dictionary form, so the fields are looked up after they are put in order.
  have read : Json.readCanonical? entry.line =
      some (.object (Json.sortMembers entry.members)) := by
    rw [Json.readCanonical?, line, Json.read?_compact proper.fits, toJson, Option.map_some,
      Json.canonical, proper.canonicalMembers_eq]
  have held := held_sortMembers entry
  rw [checkLine, read]
  dsimp only
  rw [checkMembers, held.memberFaults_eq_nil proper]
  dsimp only
  rw [held.ofMembers? fun value isHeld => (proper.details value isHeld).2.2]

end Entry.Proper

end TierHeap.Journal
