import TierHeap.Config.Basic
import TierHeap.Config.Size
import TierHeap.Error

/-!
# Configuration from named values

Each environment key has its own reader (`EnvKey.put?`), which changes the fields of that
key only.  A lenient reading keeps every key that can be read and reports the others; a
strict one fails with the first of those.  If a CXL key is refused, the CXL tier is capped
at zero bytes, so that CXL requests fail and never land on memory nobody asked for.
-/

namespace TierHeap

/-- The environment keys, in the order in which they are read. -/
inductive EnvKey where
  | modeScope
  | backend
  | hostNode
  | cxlNode
  | hostCapacity
  | cxlCapacity
  | segmentSize
  | log
  | logCapacity
  deriving DecidableEq, Repr

namespace EnvKey

def all : List EnvKey :=
  [.modeScope, .backend, .hostNode, .cxlNode, .hostCapacity, .cxlCapacity, .segmentSize,
   .log, .logCapacity]

def name : EnvKey → String
  | .modeScope => "TIERMEM_MODE_SCOPE"
  | .backend => "TIERMEM_BACKEND"
  | .hostNode => "TIERMEM_HOST_NODE"
  | .cxlNode => "TIERMEM_CXL_NODE"
  | .hostCapacity => "TIERMEM_HOST_CAPACITY"
  | .cxlCapacity => "TIERMEM_CXL_CAPACITY"
  | .segmentSize => "TIERMEM_SEGMENT_SIZE"
  | .log => "TIERMEM_LOG"
  | .logCapacity => "TIERMEM_LOG_CAPACITY"

def tier? : EnvKey → Option Tier
  | .hostNode => some .host
  | .hostCapacity => some .host
  | .cxlNode => some .cxl
  | .cxlCapacity => some .cxl
  | _ => none

def ofName? (name : String) : Option EnvKey :=
  all.find? fun key => key.name == name

/-- Node numbers are below this. -/
def nodeBound : Nat :=
  4294967296

def parseNode? (raw : String) : Option Nat :=
  Text.numeral? nodeBound (Text.trimChars raw.toList)

/-- Read a positive segment size, rounded up to whole pages. -/
def parseSegmentSize? (raw : String) : Option Nat :=
  (parseSize? raw).bind fun size =>
    if 0 < size then some (pageCeilSaturating size) else none

def parseLogCapacity? (raw : String) : Option Nat :=
  (Text.numeral? Word.bound (Text.trimChars raw.toList)).bind fun count =>
    if 0 < count then some count else none

/-- Put the value given for a key into a configuration; `none` if it cannot be read. -/
def put?
    (config : Config)
    (raw : String) : EnvKey → Option Config
  | .modeScope => (ModeScope.parse? raw).map fun scope => { config with scope := scope }
  | .backend => (BackendKind.parse? raw).map fun backend => { config with backend := backend }
  | .hostNode => (parseNode? raw).map fun node => config.withNode .host (some node)
  | .cxlNode => (parseNode? raw).map fun node => config.withNode .cxl (some node)
  | .hostCapacity => (parseSize? raw).map fun bytes => config.withCapacity .host (some bytes)
  | .cxlCapacity => (parseSize? raw).map fun bytes => config.withCapacity .cxl (some bytes)
  | .segmentSize => (parseSegmentSize? raw).map fun size => { config with segmentSize := size }
  | .log =>
      (Log.Level.parseThreshold? raw).map fun level => { config with threshold := level }
  | .logCapacity =>
      (parseLogCapacity? raw).map fun count => { config with logCapacity := count }

end EnvKey

def SettingError.tier? (err : SettingError) : Option Tier :=
  (EnvKey.ofName? err.key).bind EnvKey.tier?

/-- A lookup of values by name. -/
abbrev Lookup := String → Option String

namespace Lookup

/-- The value of a key; blank values count as absent. -/
def value?
    (lookup : Lookup)
    (key : EnvKey) : Option String :=
  (lookup key.name).filter fun raw => !Text.isBlankText raw

end Lookup

namespace Config

/-- A configuration with the values that could not be read. -/
structure Reading where
  config : Config
  rejected : List SettingError
  deriving DecidableEq, Repr

def Reading.readKey
    (lookup : Lookup)
    (reading : Reading)
    (key : EnvKey) : Reading :=
  match lookup.value? key with
  | none => reading
  | some raw =>
      match key.put? reading.config raw with
      | some config => { reading with config := config }
      | none => { reading with rejected := reading.rejected ++ [⟨key.name, raw⟩] }

/-- A CXL key was refused. -/
def Reading.cxlRejected (reading : Reading) : Bool :=
  reading.rejected.any fun err => err.tier? == some .cxl

/-- Cap the CXL tier at zero bytes if one of its keys was refused. -/
def Reading.fence (reading : Reading) : Reading :=
  if reading.cxlRejected then
    { reading with config := reading.config.withCapacity .cxl (some 0) }
  else
    reading

/-- Read every key, keeping the ones that can be read. -/
def ofLookupLenient (lookup : Lookup) : Reading :=
  (EnvKey.all.foldl (Reading.readKey lookup) ⟨standard, []⟩).fence

/-- Read every key, failing with the first one that cannot be read. -/
def ofLookup (lookup : Lookup) : Except SettingError Config :=
  let reading := ofLookupLenient lookup
  match reading.rejected with
  | [] => .ok reading.config
  | err :: _ => .error err

end Config

end TierHeap
