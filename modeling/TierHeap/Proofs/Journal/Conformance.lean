import TierHeap.Proofs.Journal.Acceptance
import TierHeap.Proofs.Text.Numerals

/-!
# What accepted lines look like

The rules look at strings and numbers only, and whatever else a field holds is left to the reading
of the entry.  Together they admit no line but those of a fixed form (`conforms_of_checkLine`), in
which a label may stand as an object of one member as well.
-/

namespace TierHeap

/-- The value is one of the names, or an object with one of them as its only key and null under
it. -/
def Json.IsLabel
    (names : List String)
    (value : Json) : Prop :=
  ∃ name ∈ names, value = .string name ∨ value = .object [(name, .null)]

namespace Journal

/-- The trace ends in the sixteen hexadecimal digits of the number. -/
def EndsIn
    (traceId : String)
    (id : Nat) : Prop :=
  (Text.hexPadded 16 id).toList.length = 16 ∧ (Text.hexPadded 16 id).toList <:+ traceId.toList

/-- The form of the members of a line. -/
structure Conforms (members : List (String × Json)) : Prop where
  timestamp : ∃ text, members.lookup "timestamp" = some (.string text)
  traceId : ∃ text, members.lookup "trace_id" = some (.string text) ∧
    "::".toList <:+: text.toList
  level : ∃ value, members.lookup "level" = some value ∧
    value.IsLabel ["trace", "debug", "info", "warn", "error"]
  event : ∃ text, members.lookup "event" = some (.string text)
  tier : ∀ value, members.lookup "tier" = some value →
    value = .null ∨ value.IsLabel ["host", "cxl"]
  mode : ∀ value, members.lookup "mode" = some value →
    value = .null ∨ value.IsLabel ["host", "cxl"]
  addr : ∀ value, members.lookup "addr" = some value →
    value = .null ∨ ∃ text, value = .string text ∧ "0x".toList <+: text.toList
  /-- A number beside the trace of an engine is the one whose digits end the trace. -/
  decision : ∀ number text, members.lookup "decision_id" = some (.number number) →
    members.lookup "trace_id" = some (.string text) → "core::".toList <+: text.toList →
      ∃ id < Word.bound, number = .natural id ∧ EndsIn text id ∧
        ∀ other < Word.bound, EndsIn text other → other = id

theorem isInfix_of_occursIn
    {wanted cs : List Char}
    (occurs : occursIn wanted cs = true) :
    wanted <:+: cs := by
  induction cs with
  | nil =>
      rw [occursIn, List.isEmpty_iff] at occurs
      exact occurs ▸ List.infix_rfl
  | cons c cs inductionHypothesis =>
      rw [occursIn, Bool.or_eq_true] at occurs
      rcases occurs with first | later
      · exact (List.isPrefixOf_iff_prefix.mp first).isInfix
      · exact (inductionHypothesis later).trans (List.suffix_cons c cs).isInfix

theorem isLabel_of_label?
    {names : List String}
    {value : Json}
    {name : String}
    (label : Entry.label? value = some name)
    (known : name ∈ names) :
    value.IsLabel names := by
  unfold Entry.label? at label
  split at label
  · cases label
    exact ⟨name, known, .inl rfl⟩
  · cases label
    exact ⟨name, known, .inr rfl⟩
  · cases label

/-- A label that is found among named values is one of their names. -/
theorem isLabel_of_find?
    {α : Type}
    {all : List α}
    {name : α → String}
    {value : Json}
    {found : α}
    (read : (Entry.label? value).bind (fun text => all.find? fun one => name one == text) =
      some found) :
    value.IsLabel (all.map name) := by
  obtain ⟨text, label, named⟩ := Option.bind_eq_some_iff.mp read
  have same : name found = text := by simpa using List.find?_some named
  refine isLabel_of_label? label ?_
  rw [← same]
  exact List.mem_map_of_mem (List.mem_of_find?_eq_some named)

/-- The digits at the end of a trace are those of one word only. -/
theorem eq_of_endsIn
    {traceId : String}
    {first second : Nat}
    (endsFirst : EndsIn traceId first)
    (endsSecond : EndsIn traceId second) :
    first = second := by
  have digits : (Text.hexPadded 16 first).toList = (Text.hexPadded 16 second).toList :=
    List.suffix_of_suffix_length_le endsFirst.2 endsSecond.2 (by rw [endsFirst.1, endsSecond.1])
      |>.eq_of_length (by rw [endsFirst.1, endsSecond.1])
  exact Text.hexPadded_injective 16 (String.toList_inj.mp digits)

namespace Accepted

variable {line : String} {entry : Entry} {members : List (String × Json)}

/-- A field that may be absent is null or decodes. -/
theorem null_or_decoded
    {α : Type}
    {key : String}
    {decode : Json → Option α}
    {held : Option α}
    (read : Entry.optional? members key decode = some held)
    {value : Json}
    (found : members.lookup key = some value) :
    value = .null ∨ ∃ decoded, decode value = some decoded := by
  rcases Entry.optional?_eq_some_iff.mp read with ⟨-, absent | null⟩ | ⟨other, isFound, -, decoded⟩
  · rw [absent] at found
    cases found
  · rw [null] at found
    exact .inl (Option.some.inj found).symm
  · rw [isFound] at found
    cases found
    obtain ⟨present, isDecoded, -⟩ := Option.map_eq_some_iff.mp decoded
    exact .inr ⟨present, isDecoded⟩

theorem decision
    (accepted : Accepted line entry members)
    {number : JsonNumber}
    {text : String}
    (isNumber : members.lookup "decision_id" = some (.number number))
    (isTrace : members.lookup "trace_id" = some (.string text))
    (engine : "core::".toList <+: text.toList) :
    ∃ id < Word.bound, number = .natural id ∧ EndsIn text id ∧
      ∀ other < Word.bound, EndsIn text other → other = id := by
  rcases null_or_decoded accepted.reads.decisionId isNumber with null | ⟨id, natural⟩
  · cases null
  · have same := Json.nat?_eq_some_iff.mp natural
    cases same
    have small : id < Word.bound :=
      (accepted.found isNumber).1.inRange (.natural id) (by simp [Json.numbers])
    have ends : EndsIn text id := by
      refine ⟨Text.length_hexPadded (by decide) small, List.isSuffixOf_iff_suffix.mp ?_⟩
      exact accepted.faultless.decision id text isNumber isTrace
        (List.isPrefixOf_iff_prefix.mpr engine)
    exact ⟨id, small, rfl, ends, fun other _ otherEnds => eq_of_endsIn otherEnds ends⟩

theorem conforms (accepted : Accepted line entry members) : Conforms members where
  timestamp := ⟨_, Entry.string_of_required? accepted.reads.timestamp⟩
  traceId := by
    have found := Entry.string_of_required? accepted.reads.traceId
    exact ⟨_, found, isInfix_of_occursIn (accepted.faultless.traceId _ found)⟩
  level := by
    obtain ⟨value, found, read⟩ := Entry.required?_eq_some_iff.mp accepted.reads.level
    exact ⟨value, found, isLabel_of_find? read⟩
  event := ⟨_, Entry.string_of_required? accepted.reads.event⟩
  tier _ found :=
    (null_or_decoded accepted.reads.tier found).imp_right fun ⟨_, read⟩ => isLabel_of_find? read
  mode _ found :=
    (null_or_decoded accepted.reads.mode found).imp_right fun ⟨_, read⟩ => isLabel_of_find? read
  addr value found := by
    refine (null_or_decoded accepted.reads.addr found).imp_right fun ⟨text, read⟩ => ?_
    have same := Json.string?_eq_some_iff.mp read
    subst same
    exact ⟨text, rfl, List.isPrefixOf_iff_prefix.mp (accepted.faultless.addr text found)⟩
  decision _ _ isNumber isTrace engine := accepted.decision isNumber isTrace engine

end Accepted

/-- A line that is accepted is an object whose members have the fixed form. -/
theorem conforms_of_checkLine
    {line : String}
    {entry : Entry}
    (checked : checkLine line = .ok entry) :
    ∃ members, Json.readCanonical? line = some (.object members) ∧ Conforms members := by
  obtain ⟨members, accepted⟩ := accepted_of_checkLine checked
  exact ⟨members, accepted.object, accepted.conforms⟩

def taggedLine : String :=
  "\x7b\"timestamp\":\"t\",\"trace_id\":\"core::a::000000000000000a\",\"decision_id\":10," ++
    "\"level\":\x7b\"info\":null\x7d,\"event\":\"x\",\"tier\":\x7b\"cxl\":null\x7d," ++
    "\"mode\":\x7b\"host\":null\x7d\x7d"

theorem checkLine_taggedLine : ∃ entry, checkLine taggedLine = .ok entry := by
  have shown : (checkLine taggedLine).toOption.map Entry.event = some "x" := by decide +kernel
  obtain ⟨entry, checked, -⟩ := ok_of_map_toOption shown
  exact ⟨entry, checked⟩

theorem conforms_taggedLine :
    ∃ entry members, checkLine taggedLine = .ok entry ∧
      Json.readCanonical? taggedLine = some (.object members) ∧ Conforms members := by
  obtain ⟨entry, checked⟩ := checkLine_taggedLine
  obtain ⟨members, object, conforms⟩ := conforms_of_checkLine checked
  exact ⟨entry, members, checked, object, conforms⟩

/-- A line is accepted though its level, its tier and its mode are no strings. -/
theorem labels_may_be_objects :
    ∃ entry members, checkLine taggedLine = .ok entry ∧
      Json.readCanonical? taggedLine = some (.object members) ∧
        ∀ key ∈ ["level", "tier", "mode"], ∃ value, members.lookup key = some value ∧
          value ≠ .null ∧ ∀ name, value ≠ .string name := by
  have objects :
      ((Json.readCanonical? taggedLine).bind Json.members?).all (fun members =>
        ["level", "tier", "mode"].all fun key =>
          ((members.lookup key).bind Json.members?).isSome) = true := by
    decide +kernel
  obtain ⟨entry, checked⟩ := checkLine_taggedLine
  obtain ⟨members, accepted⟩ := accepted_of_checkLine checked
  refine ⟨entry, members, checked, accepted.object, fun key isKey => ?_⟩
  rw [accepted.object, Option.bind_some, Json.members?, Option.all_some] at objects
  obtain ⟨inner, isObject⟩ :=
    Option.isSome_iff_exists.mp (List.all_eq_true.mp objects key isKey)
  obtain ⟨value, found, isMembers⟩ := Option.bind_eq_some_iff.mp isObject
  refine ⟨value, found, ?_, ?_⟩
  · rintro rfl
    cases isMembers
  · rintro name rfl
    cases isMembers

end Journal

end TierHeap
