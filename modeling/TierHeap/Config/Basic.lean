import TierHeap.Granularity
import TierHeap.Log.Level
import TierHeap.Tier

/-!
# Engine configuration

The settings an engine is built from, and their defaults.
-/

namespace TierHeap

/-- Whether one tier choice holds for all threads or each thread has its own. -/
inductive ModeScope where
  | process
  | thread
  deriving DecidableEq, Repr, Inhabited

namespace ModeScope

def name : ModeScope → String
  | .process => "process"
  | .thread => "thread"

def label : ModeScope → String
  | .process => "Process"
  | .thread => "Thread"

def parse? (s : String) : Option ModeScope :=
  let word := Text.keyword s
  if ["process", "global", "shared"].contains word then some .process
  else if ["thread", "per-thread", "tls"].contains word then some .thread
  else none

end ModeScope

/-- Where segments come from: the operating system, or the system heap. -/
inductive BackendKind where
  | mmap
  | heap
  deriving DecidableEq, Repr, Inhabited

namespace BackendKind

def name : BackendKind → String
  | .mmap => "mmap"
  | .heap => "heap"

def parse? (s : String) : Option BackendKind :=
  let word := Text.keyword s
  if ["mmap", "os", "numa"].contains word then some .mmap
  else if ["heap", "system", "std"].contains word then some .heap
  else none

end BackendKind

/-- The settings of one tier: a ceiling on committed bytes and the node its memory is bound
to, each absent if there is none. -/
structure TierSettings where
  capacity : Option Nat
  node : Option Nat
  deriving DecidableEq, Repr, Inhabited

structure Config where
  scope : ModeScope
  tiers : PerTier TierSettings
  /-- The least length of a new segment. -/
  segmentSize : Nat
  backend : BackendKind
  /-- The least level of lifecycle records; `none` switches the log off. -/
  threshold : Option Log.Level
  logCapacity : Nat
  deriving DecidableEq, Repr, Inhabited

namespace Config

/-- The defaults: one mode for the process, unlimited tiers, two-mebibyte segments, and a
log of 4096 warnings and errors. -/
def standard : Config where
  scope := .process
  tiers := .both ⟨none, none⟩
  segmentSize := 2097152
  backend := .mmap
  threshold := some .warn
  logCapacity := 4096

def withCapacity
    (config : Config)
    (tier : Tier)
    (capacity : Option Nat) : Config :=
  { config with
    tiers := config.tiers.modify tier fun settings => { settings with capacity := capacity } }

def withNode
    (config : Config)
    (tier : Tier)
    (node : Option Nat) : Config :=
  { config with
    tiers := config.tiers.modify tier fun settings => { settings with node := node } }

/-- Set the segment size, rounded up to whole pages and to at least one page. -/
def withSegmentSize
    (config : Config)
    (size : Nat) : Config :=
  { config with segmentSize := pageCeilSaturating (max size 1) }

def withLogCapacity
    (config : Config)
    (capacity : Nat) : Config :=
  { config with logCapacity := max capacity 1 }

end Config

end TierHeap
