import TierHeap.Config.Lookup

/-!
# What a reading holds

Each environment key sets a field of its own, so a reading can be given field by field
(`Config.configured`), and what it refuses key by key (`Lookup.refusal?`).  The only tie between
keys is the fence: a refused CXL key caps the CXL tier at zero bytes, whatever else was read
(`Config.ofLookupLenient_eq`).
-/

namespace TierHeap

namespace EnvKey

def reads
    (key : EnvKey)
    (raw : String) : Bool :=
  (key.put? Config.standard raw).isSome

theorem put?_isSome
    (config : Config)
    (raw : String)
    (key : EnvKey) :
    (key.put? config raw).isSome = key.reads raw := by
  cases key <;> simp only [reads, put?, Option.isSome_map]

theorem ofName?_name (key : EnvKey) : ofName? key.name = some key := by
  cases key <;> decide +kernel

/-- Put the value that is given for a key into a configuration, if it can be read. -/
def given
    (lookup : Lookup)
    (config : Config) : EnvKey → Config
  | .modeScope =>
      { config with
        scope := ((lookup.value? .modeScope).bind ModeScope.parse?).getD config.scope }
  | .backend =>
      { config with
        backend := ((lookup.value? .backend).bind BackendKind.parse?).getD config.backend }
  | .hostNode =>
      config.withNode .host
        (((lookup.value? .hostNode).bind parseNode?).or config.tiers.host.node)
  | .cxlNode =>
      config.withNode .cxl (((lookup.value? .cxlNode).bind parseNode?).or config.tiers.cxl.node)
  | .hostCapacity =>
      config.withCapacity .host
        (((lookup.value? .hostCapacity).bind parseSize?).or config.tiers.host.capacity)
  | .cxlCapacity =>
      config.withCapacity .cxl
        (((lookup.value? .cxlCapacity).bind parseSize?).or config.tiers.cxl.capacity)
  | .segmentSize =>
      { config with
        segmentSize :=
          ((lookup.value? .segmentSize).bind parseSegmentSize?).getD config.segmentSize }
  | .log =>
      { config with
        threshold :=
          ((lookup.value? .log).bind Log.Level.parseThreshold?).getD config.threshold }
  | .logCapacity =>
      { config with
        logCapacity :=
          ((lookup.value? .logCapacity).bind parseLogCapacity?).getD config.logCapacity }

end EnvKey

namespace Lookup

variable (lookup : Lookup)

/-- The refusal of the value of a key, if it has one that cannot be read. -/
def refusal? (key : EnvKey) : Option SettingError :=
  ((lookup.value? key).filter fun raw => !key.reads raw).map fun raw => ⟨key.name, raw⟩

/-- A CXL key is set to something that is neither blank nor readable. -/
def CxlMalformed : Prop :=
  (∃ raw, lookup EnvKey.cxlNode.name = some raw ∧ Text.isBlankText raw = false ∧
      EnvKey.parseNode? raw = none) ∨
    ∃ raw, lookup EnvKey.cxlCapacity.name = some raw ∧ Text.isBlankText raw = false ∧
      parseSize? raw = none

def withoutCxl : Lookup :=
  fun name =>
    if name = EnvKey.cxlNode.name ∨ name = EnvKey.cxlCapacity.name then none else lookup name

variable {lookup}

theorem refusal?_of_unset
    {key : EnvKey}
    (unset : lookup.value? key = none) :
    lookup.refusal? key = none := by
  rw [refusal?, unset]
  rfl

/-- Whatever a configuration holds, a value is refused exactly if it cannot be put there. -/
theorem refusal?_of_value
    {key : EnvKey}
    {raw : String}
    (found : lookup.value? key = some raw)
    (config : Config) :
    lookup.refusal? key =
      match key.put? config raw with
      | some _ => none
      | none => some ⟨key.name, raw⟩ := by
  have readable := EnvKey.put?_isSome config raw key
  rw [refusal?, found]
  cases put : key.put? config raw with
  | none =>
      have unread : key.reads raw = false := by rw [← readable, put]; rfl
      simp [Option.filter, unread]
  | some after =>
      have read : key.reads raw = true := by rw [← readable, put]; rfl
      simp [Option.filter, read]

theorem tier?_of_refusal
    {key : EnvKey}
    {err : SettingError}
    (refused : lookup.refusal? key = some err) :
    err.tier? = key.tier? := by
  obtain ⟨raw, -, rfl⟩ := Option.map_eq_some_iff.mp refused
  simp only [SettingError.tier?, EnvKey.ofName?_name, Option.bind_some]

theorem refusal?_isSome_iff
    {key : EnvKey} :
    (lookup.refusal? key).isSome ↔
      ∃ raw, lookup key.name = some raw ∧ Text.isBlankText raw = false ∧
        key.reads raw = false := by
  simp [refusal?, value?, Option.any_eq_true]

theorem cxlMalformed_iff :
    lookup.CxlMalformed ↔
      (lookup.refusal? .cxlNode).isSome ∨ (lookup.refusal? .cxlCapacity).isSome := by
  rw [refusal?_isSome_iff, refusal?_isSome_iff]
  simp [CxlMalformed, EnvKey.reads, EnvKey.put?]

theorem value?_withoutCxl
    (lookup : Lookup)
    (key : EnvKey) :
    lookup.withoutCxl.value? key =
      if key.tier? = some .cxl then none else lookup.value? key := by
  cases key <;> simp [value?, withoutCxl, EnvKey.name, EnvKey.tier?]

end Lookup

namespace Config

/-- The configuration of the values that can be read, field by field. -/
def configured (lookup : Lookup) : Config where
  scope := ((lookup.value? .modeScope).bind ModeScope.parse?).getD standard.scope
  tiers :=
    { host :=
        { capacity := (lookup.value? .hostCapacity).bind parseSize?
          node := (lookup.value? .hostNode).bind EnvKey.parseNode? }
      cxl :=
        { capacity := (lookup.value? .cxlCapacity).bind parseSize?
          node := (lookup.value? .cxlNode).bind EnvKey.parseNode? } }
  segmentSize :=
    ((lookup.value? .segmentSize).bind EnvKey.parseSegmentSize?).getD standard.segmentSize
  backend := ((lookup.value? .backend).bind BackendKind.parse?).getD standard.backend
  threshold := ((lookup.value? .log).bind Log.Level.parseThreshold?).getD standard.threshold
  logCapacity :=
    ((lookup.value? .logCapacity).bind EnvKey.parseLogCapacity?).getD standard.logCapacity

variable (lookup : Lookup)

/-- Reading a key sets its field, or else reports its value. -/
theorem Reading.readKey_eq
    (reading : Reading)
    (key : EnvKey) :
    reading.readKey lookup key =
      ⟨key.given lookup reading.config, reading.rejected ++ (lookup.refusal? key).toList⟩ := by
  rw [readKey]
  cases found : lookup.value? key with
  | none =>
      rw [Lookup.refusal?_of_unset found]
      cases key <;> simp [EnvKey.given, found, withNode, withCapacity, PerTier.modify,
        PerTier.set, PerTier.get]
  | some raw =>
      rw [Lookup.refusal?_of_value found reading.config]
      cases key <;> simp only [EnvKey.put?, EnvKey.given, found, Option.bind_some]
      case modeScope => cases ModeScope.parse? raw <;> simp
      case backend => cases BackendKind.parse? raw <;> simp
      case segmentSize => cases EnvKey.parseSegmentSize? raw <;> simp
      case log => cases Log.Level.parseThreshold? raw <;> simp
      case logCapacity => cases EnvKey.parseLogCapacity? raw <;> simp
      case hostNode | cxlNode =>
        cases EnvKey.parseNode? raw <;>
          simp [withNode, PerTier.modify, PerTier.set, PerTier.get]
      case hostCapacity | cxlCapacity =>
        cases parseSize? raw <;>
          simp [withCapacity, PerTier.modify, PerTier.set, PerTier.get]

theorem foldl_readKey
    (keys : List EnvKey)
    (reading : Reading) :
    keys.foldl (Reading.readKey lookup) reading =
      ⟨keys.foldl (EnvKey.given lookup) reading.config,
        reading.rejected ++ keys.filterMap lookup.refusal?⟩ := by
  induction keys generalizing reading with
  | nil =>
      simp
  | cons key rest inductionHypothesis =>
      rw [List.foldl_cons, inductionHypothesis, Reading.readKey_eq]
      cases refused : lookup.refusal? key <;> simp [refused]

/-- Every key has a field of its own. -/
theorem foldl_given : EnvKey.all.foldl (EnvKey.given lookup) standard = configured lookup := by
  simp [EnvKey.all, EnvKey.given, configured, standard, withNode, withCapacity, PerTier.modify,
    PerTier.set, PerTier.get, PerTier.both]

def refusals : List SettingError :=
  EnvKey.all.filterMap lookup.refusal?

/-- A CXL key is among the refused ones exactly if it is malformed. -/
theorem cxlRejected_iff
    (config : Config) :
    (Reading.mk config (refusals lookup)).cxlRejected = true ↔ lookup.CxlMalformed := by
  have cxl (err : SettingError) :
      err ∈ refusals lookup ∧ (err.tier? == some Tier.cxl) = true ↔
        lookup.refusal? .cxlNode = some err ∨ lookup.refusal? .cxlCapacity = some err := by
    constructor
    · rintro ⟨member, tier⟩
      obtain ⟨key, -, refused⟩ := List.mem_filterMap.mp member
      rw [Lookup.tier?_of_refusal refused] at tier
      cases key with
      | cxlNode =>
          exact .inl refused
      | cxlCapacity =>
          exact .inr refused
      | _ =>
          cases tier
    · rintro (refused | refused)
      · refine ⟨List.mem_filterMap.mpr ⟨.cxlNode, by decide, refused⟩, ?_⟩
        rw [Lookup.tier?_of_refusal refused]
        rfl
      · refine ⟨List.mem_filterMap.mpr ⟨.cxlCapacity, by decide, refused⟩, ?_⟩
        rw [Lookup.tier?_of_refusal refused]
        rfl
  rw [Reading.cxlRejected, List.any_eq_true, Lookup.cxlMalformed_iff,
    Option.isSome_iff_exists, Option.isSome_iff_exists, ← exists_or]
  exact exists_congr cxl

/-- A lenient reading holds what can be read and reports the rest; a malformed CXL key caps the
CXL tier at zero bytes. -/
theorem ofLookupLenient_eq :
    (lookup.CxlMalformed →
        ofLookupLenient lookup =
          ⟨(configured lookup).withCapacity .cxl (some 0), refusals lookup⟩) ∧
      (¬lookup.CxlMalformed → ofLookupLenient lookup = ⟨configured lookup, refusals lookup⟩) := by
  have read : EnvKey.all.foldl (Reading.readKey lookup) ⟨standard, []⟩ =
      ⟨configured lookup, refusals lookup⟩ := by
    rw [foldl_readKey, foldl_given]
    rfl
  have rejected := cxlRejected_iff lookup (configured lookup)
  rw [ofLookupLenient, read, Reading.fence]
  constructor
  · intro malformed
    rw [if_pos (rejected.mpr malformed)]
  · intro wellFormed
    rw [if_neg (mt rejected.mp wellFormed)]

/-- Without the CXL keys, the configuration is the same but for the CXL tier, which has neither
ceiling nor node. -/
theorem configured_withoutCxl :
    configured lookup.withoutCxl =
      { configured lookup with tiers := (configured lookup).tiers.set .cxl ⟨none, none⟩ } := by
  simp [configured, Lookup.value?_withoutCxl, EnvKey.tier?, PerTier.set]

theorem not_cxlMalformed_withoutCxl : ¬lookup.withoutCxl.CxlMalformed := by
  simp [Lookup.CxlMalformed, Lookup.withoutCxl]

end Config

end TierHeap
