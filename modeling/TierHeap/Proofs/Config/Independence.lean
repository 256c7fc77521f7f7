import TierHeap.Proofs.Config.Reading
import TierHeap.Proofs.Config.Sizes

/-!
# The keys of a reading are independent

Each environment key has a field of its own and a reader of its own (`EnvKey.field`,
`EnvKey.parse?`).  What a reading holds in the field of a key, and whether it rejects the key,
depends on the value of that key alone, and the fence of the CXL tier is the one exception
(`Config.keys_independent`).
-/

namespace TierHeap

theorem Text.isBlankText_iff (s : String) : isBlankText s = true ↔ trim s = "" := by
  rw [isBlankText, List.all_eq_true, trim, String.ofList_eq_empty_iff]
  constructor
  · intro blank
    have nothing : s.toList.dropWhile isBlank = [] := List.dropWhile_eq_nil_iff.mpr blank
    rw [trimChars, nothing]
    rfl
  · intro nothing c member
    obtain ⟨before, after, same, blankBefore, blankAfter⟩ := exists_blanks_trimChars s.toList
    rw [same, nothing, List.append_nil] at member
    rcases List.mem_append.mp member with isBefore | isAfter
    · exact blankBefore c isBefore
    · exact blankAfter c isAfter

namespace EnvKey

def Field : EnvKey → Type
  | .modeScope => ModeScope
  | .backend => BackendKind
  | .hostNode => Option Nat
  | .cxlNode => Option Nat
  | .hostCapacity => Option Nat
  | .cxlCapacity => Option Nat
  | .segmentSize => Nat
  | .log => Option Log.Level
  | .logCapacity => Nat

def field (config : Config) : (key : EnvKey) → key.Field
  | .modeScope => config.scope
  | .backend => config.backend
  | .hostNode => config.tiers.host.node
  | .cxlNode => config.tiers.cxl.node
  | .hostCapacity => config.tiers.host.capacity
  | .cxlCapacity => config.tiers.cxl.capacity
  | .segmentSize => config.segmentSize
  | .log => config.threshold
  | .logCapacity => config.logCapacity

/-- Read a value that is given for a key; `none` if it is malformed. -/
def parse? (raw : String) : (key : EnvKey) → Option key.Field
  | .modeScope => ModeScope.parse? raw
  | .backend => BackendKind.parse? raw
  | .hostNode => (parseNode? raw).map some
  | .cxlNode => (parseNode? raw).map some
  | .hostCapacity => (parseSize? raw).map some
  | .cxlCapacity => (parseSize? raw).map some
  | .segmentSize => parseSegmentSize? raw
  | .log => Log.Level.parseThreshold? raw
  | .logCapacity => parseLogCapacity? raw

theorem isSome_parse?
    (key : EnvKey)
    (raw : String) :
    (key.parse? raw).isSome = key.reads raw := by
  cases key with
  | modeScope | backend | segmentSize | log | logCapacity =>
      simp only [parse?, reads, put?, Option.isSome_map]
      rfl
  | hostNode | cxlNode | hostCapacity | cxlCapacity =>
      simp only [parse?, reads, put?, Option.isSome_map]
      exact Option.isSome_map

theorem name_injective : Function.Injective name := by
  intro first second same
  have found := congrArg ofName? same
  rw [ofName?_name, ofName?_name] at found
  exact Option.some.inj found

theorem mem_all (key : EnvKey) : key ∈ all := by
  cases key <;> decide

/-- The fence changes the field of one key. -/
theorem field_fenced
    {key : EnvKey}
    (other : key ≠ .cxlCapacity)
    (config : Config) :
    key.field (config.withCapacity .cxl (some 0)) = key.field config := by
  cases key with
  | cxlCapacity =>
      exact absurd rfl other
  | _ =>
      rfl

/-- Every field is what is given for its key, or else the default. -/
theorem field_configured
    (lookup : Lookup)
    (key : EnvKey) :
    key.field (Config.configured lookup) =
      ((lookup.value? key).bind key.parse?).getD (key.field .standard) := by
  cases key with
  | modeScope | backend | segmentSize | log | logCapacity =>
      rfl
  | hostNode | cxlNode =>
      simp only [field, Config.configured, parse?]
      cases lookup.value? _ with
      | none =>
          rfl
      | some raw =>
          simp only [Option.bind_some]
          cases parseNode? raw <;> rfl
  | hostCapacity | cxlCapacity =>
      simp only [field, Config.configured, parse?]
      cases lookup.value? _ with
      | none =>
          rfl
      | some raw =>
          simp only [Option.bind_some]
          cases parseSize? raw <;> rfl

end EnvKey

namespace Lookup

variable (lookup : Lookup)

/-- The value of a key, if it is set to something that is neither blank nor readable. -/
def malformed? (key : EnvKey) : Option String :=
  (lookup key.name).filter fun raw => Text.trim raw ≠ "" ∧ (key.parse? raw).isNone

theorem refusal?_eq (key : EnvKey) :
    lookup.refusal? key = (lookup.malformed? key).map (SettingError.mk key.name) := by
  have same (raw : String) :
      (!Text.isBlankText raw && !key.reads raw) =
        decide (Text.trim raw ≠ "" ∧ (key.parse? raw).isNone) := by
    rw [Bool.eq_iff_iff, decide_eq_true_iff, ne_eq, ← Text.isBlankText_iff, ← key.isSome_parse?]
    simp
  rw [refusal?, value?, malformed?, Option.filter_filter]
  simp only [same]

end Lookup

namespace Config

/-- A reading rejects a key. -/
def Reading.Rejects
    (reading : Reading)
    (key : EnvKey) : Prop :=
  ∃ err ∈ reading.rejected, err.key = key.name

/-- A reading rejects a key of the CXL tier. -/
def Reading.Fences (reading : Reading) : Prop :=
  reading.Rejects .cxlNode ∨ reading.Rejects .cxlCapacity

variable (lookup : Lookup)

/-- Each key stands for itself, up to the fence. -/
structure KeyByKey : Prop where
  /-- Where another lookup has the same value for a key, the field of the key is the same and
  the key is rejected by both or by neither.  The ceiling of the CXL tier also depends on
  whether the tier is fenced, and nothing else does. -/
  apart : ∀ (other : Lookup) (key : EnvKey), lookup.value? key = other.value? key →
    ((ofLookupLenient lookup).Rejects key ↔ (ofLookupLenient other).Rejects key) ∧
      ((key = .cxlCapacity →
          ((ofLookupLenient lookup).Fences ↔ (ofLookupLenient other).Fences)) →
        key.field (ofLookupLenient lookup).config = key.field (ofLookupLenient other).config)
  /-- Texts of blanks alone count as unset. -/
  unset : ∀ key raw,
    lookup.value? key = some raw ↔ lookup key.name = some raw ∧ Text.trim raw ≠ ""
  fence : (ofLookupLenient lookup).Fences →
    (ofLookupLenient lookup).config.tiers.cxl.capacity = some 0
  /-- The malformed values are rejected as they were given, in the order of the keys. -/
  rejected : (ofLookupLenient lookup).rejected =
    EnvKey.all.filterMap fun key => (lookup.malformed? key).map (SettingError.mk key.name)
  /-- A key that is read sets its field. -/
  set : ∀ key raw value, lookup.value? key = some raw → key.parse? raw = some value →
    (key = .cxlCapacity → ¬(ofLookupLenient lookup).Fences) →
      key.field (ofLookupLenient lookup).config = value
  /-- A key that is unset or rejected leaves its default. -/
  default : ∀ key, lookup.value? key = none ∨ (ofLookupLenient lookup).Rejects key →
    (key = .cxlCapacity → ¬(ofLookupLenient lookup).Fences) →
      key.field (ofLookupLenient lookup).config = key.field .standard
  strictOk : ∀ config, ofLookup lookup = .ok config ↔
    (ofLookupLenient lookup).rejected = [] ∧ config = (ofLookupLenient lookup).config
  strictError : ∀ err, ofLookup lookup = .error err ↔
    (ofLookupLenient lookup).rejected.head? = some err

theorem rejected_ofLookupLenient : (ofLookupLenient lookup).rejected = refusals lookup := by
  obtain ⟨fenced, unfenced⟩ := ofLookupLenient_eq lookup
  by_cases malformed : lookup.CxlMalformed
  · rw [fenced malformed]
  · rw [unfenced malformed]

theorem rejects_iff (key : EnvKey) :
    (ofLookupLenient lookup).Rejects key ↔ (lookup.refusal? key).isSome = true := by
  rw [Reading.Rejects, rejected_ofLookupLenient, Option.isSome_iff_exists]
  constructor
  · rintro ⟨err, member, named⟩
    obtain ⟨source, -, refused⟩ := List.mem_filterMap.mp member
    obtain ⟨raw, -, rfl⟩ := Option.map_eq_some_iff.mp refused
    obtain rfl : source = key := EnvKey.name_injective named
    exact ⟨_, refused⟩
  · rintro ⟨err, refused⟩
    have named : err.key = key.name := by
      obtain ⟨raw, -, rfl⟩ := Option.map_eq_some_iff.mp refused
      rfl
    exact ⟨err, List.mem_filterMap.mpr ⟨key, key.mem_all, refused⟩, named⟩

theorem fences_iff : (ofLookupLenient lookup).Fences ↔ lookup.CxlMalformed := by
  rw [Reading.Fences, rejects_iff, rejects_iff, Lookup.cxlMalformed_iff]

variable {lookup}

theorem capacity_of_fences (fences : (ofLookupLenient lookup).Fences) :
    (ofLookupLenient lookup).config.tiers.cxl.capacity = some 0 := by
  rw [(ofLookupLenient_eq lookup).1 ((fences_iff lookup).mp fences)]
  rfl

/-- Unless the fence stands in its way, the field of a key is what is given for the key, or
else the default. -/
theorem field_ofLookupLenient
    {key : EnvKey}
    (unfenced : key = .cxlCapacity → ¬(ofLookupLenient lookup).Fences) :
    key.field (ofLookupLenient lookup).config =
      ((lookup.value? key).bind key.parse?).getD (key.field .standard) := by
  rw [← EnvKey.field_configured]
  by_cases malformed : lookup.CxlMalformed
  · have other : key ≠ .cxlCapacity := fun same =>
      unfenced same ((fences_iff lookup).mpr malformed)
    rw [(ofLookupLenient_eq lookup).1 malformed]
    exact EnvKey.field_fenced other _
  · rw [(ofLookupLenient_eq lookup).2 malformed]

/-- A value that is not rejected can be read, and unless the fence stands in its way it sets
the field of its key. -/
theorem field_of_accepted
    {key : EnvKey}
    {raw : String}
    (given : lookup.value? key = some raw)
    (accepted : ¬(ofLookupLenient lookup).Rejects key)
    (unfenced : key = .cxlCapacity → ¬(ofLookupLenient lookup).Fences) :
    ∃ value, key.parse? raw = some value ∧
      key.field (ofLookupLenient lookup).config = value := by
  cases parsed : key.parse? raw with
  | none =>
      have unread : key.reads raw = false := by
        rw [← key.isSome_parse?, parsed]
        rfl
      refine absurd ((rejects_iff lookup key).mpr ?_) accepted
      rw [Lookup.refusal?, given, Option.filter_some_pos (by rw [unread]; rfl)]
      rfl
  | some value =>
      refine ⟨value, rfl, ?_⟩
      rw [field_ofLookupLenient unfenced, given, Option.bind_some, parsed]
      rfl

theorem field_eq_of_value?_eq
    {other : Lookup}
    {key : EnvKey}
    (same : lookup.value? key = other.value? key)
    (alike : key = .cxlCapacity →
      ((ofLookupLenient lookup).Fences ↔ (ofLookupLenient other).Fences)) :
    key.field (ofLookupLenient lookup).config = key.field (ofLookupLenient other).config := by
  by_cases fenced : key = .cxlCapacity ∧ (ofLookupLenient lookup).Fences
  · obtain ⟨rfl, fences⟩ := fenced
    have otherFences := (alike rfl).mp fences
    exact (capacity_of_fences fences).trans (capacity_of_fences otherFences).symm
  · have unfenced : key = .cxlCapacity → ¬(ofLookupLenient lookup).Fences :=
      not_and.mp fenced
    have otherUnfenced : key = .cxlCapacity → ¬(ofLookupLenient other).Fences :=
      fun isCapacity => mt (alike isCapacity).mpr (unfenced isCapacity)
    rw [field_ofLookupLenient unfenced, field_ofLookupLenient otherUnfenced, same]

/-- Whatever is looked up, each key stands for itself, up to the fence. -/
theorem keys_independent (lookup : Lookup) : KeyByKey lookup where
  apart other key same := by
    refine ⟨?_, field_eq_of_value?_eq same⟩
    rw [rejects_iff, rejects_iff, Lookup.refusal?, Lookup.refusal?, same]
  unset key raw := by
    rw [Lookup.value?, Option.filter_eq_some_iff, ne_eq, ← Text.isBlankText_iff]
    simp
  fence := capacity_of_fences
  rejected := by
    rw [rejected_ofLookupLenient, refusals]
    exact congrArg (List.filterMap · EnvKey.all) (funext lookup.refusal?_eq)
  set key raw value given read unfenced := by
    rw [field_ofLookupLenient unfenced, given, Option.bind_some, read]
    rfl
  default key missing unfenced := by
    have nothing : (lookup.value? key).bind key.parse? = none := by
      rcases missing with unset | rejects
      · rw [unset]
        rfl
      · rw [rejects_iff, Lookup.refusal?, Option.isSome_map, Option.isSome_filter,
          Option.any_eq_true] at rejects
        obtain ⟨raw, given, unread⟩ := rejects
        rw [given, Option.bind_some, ← Option.not_isSome_iff_eq_none, key.isSome_parse?]
        simpa using unread
    rw [field_ofLookupLenient unfenced, nothing]
    rfl
  strictOk config := by
    rw [ofLookup]
    cases (ofLookupLenient lookup).rejected with
    | nil =>
        simp [eq_comm]
    | cons err rest =>
        simp
  strictError err := by
    rw [ofLookup]
    cases (ofLookupLenient lookup).rejected <;> simp

/-- Two malformed values beside a valid one. -/
example :
    let lookup : Lookup := fun name =>
      if name = "TIERMEM_LOG" then some " loud"
      else if name = "TIERMEM_CXL_NODE" then some "far"
      else if name = "TIERMEM_SEGMENT_SIZE" then some "5000"
      else none
    (ofLookupLenient lookup).rejected =
        [⟨"TIERMEM_CXL_NODE", "far"⟩, ⟨"TIERMEM_LOG", " loud"⟩] ∧
      (ofLookupLenient lookup).config.segmentSize = 8192 ∧
      (ofLookupLenient lookup).config.tiers.cxl = ⟨some 0, none⟩ := by
  decide +kernel

end Config

end TierHeap
