import TierHeap.Tier
import TierHeap.Text.Digits
import TierHeap.Text.Quoted

/-!
# Failures and their wording

Each kind of failure is a type of causes.  The function `name` names a cause without its
particulars, and `message` words it with them.
-/

namespace TierHeap

/-- Why a request to the engine was refused. -/
inductive RequestError where
  /-- The chosen tier cannot supply the memory; the other tier is never tried. -/
  | outOfMemory (tier : Tier) (requested : Nat)
  /-- The address is not the start of a live block. -/
  | unknownAddress (addr : Nat)
  /-- The size is zero or too large. -/
  | invalidSize (size : Nat)
  /-- The alignment is no power of two or is larger than a page. -/
  | invalidAlignment (align : Nat)
  deriving DecidableEq, Repr

/-- What a backend reports when it cannot commit or release a segment. -/
inductive BackendError where
  | invalidLength (len : Nat)
  | mapFailed (len : Nat) (errno : Int)
  | bindFailed (node : Nat) (errno : Int)
  | nodeOutOfRange (node : Nat)
  | unmapFailed (base : Nat) (errno : Int)
  deriving DecidableEq, Repr

/-- Why a tier could not grow its arena. -/
inductive GrowError where
  | capacityExceeded (capacity committed wanted : Nat)
  | backend (cause : BackendError)
  deriving DecidableEq, Repr

/-- A setting whose value was refused, with the value as it was given. -/
structure SettingError where
  key : String
  value : String
  deriving DecidableEq, Repr

/-- A disagreement between the block table and the tiers' arenas. -/
inductive InvariantViolation where
  | bytesMismatch (tier : Tier) (table arena : Nat)
  | countMismatch (tier : Tier) (table arena : Nat)
  | overlap (first second : Nat)
  | outsideArena (addr : Nat) (tier : Tier)
  deriving DecidableEq, Repr

def RequestError.name : RequestError → String
  | .outOfMemory _ _ => "OutOfMemory"
  | .unknownAddress _ => "UnknownAddress"
  | .invalidSize _ => "InvalidSize"
  | .invalidAlignment _ => "InvalidAlignment"

def BackendError.name : BackendError → String
  | .invalidLength _ => "InvalidLength"
  | .mapFailed _ _ => "MapFailed"
  | .bindFailed _ _ => "BindFailed"
  | .nodeOutOfRange _ => "NodeOutOfRange"
  | .unmapFailed _ _ => "UnmapFailed"

/-- The name of the kind of a failed growth; a backend's failure keeps its own. -/
def GrowError.name : GrowError → String
  | .capacityExceeded _ _ _ => "CapacityExceeded"
  | .backend cause => cause.name

def SettingError.name (_ : SettingError) : String :=
  "InvalidValue"

def InvariantViolation.name : InvariantViolation → String
  | .bytesMismatch _ _ _ => "BytesMismatch"
  | .countMismatch _ _ _ => "CountMismatch"
  | .overlap _ _ => "Overlap"
  | .outsideArena _ _ => "OutsideArena"

open Text (decimal address)

def RequestError.message : RequestError → String
  | .outOfMemory tier requested =>
      "out of memory on " ++ tier.name ++ " tier: requested " ++ decimal requested ++ " bytes"
  | .unknownAddress addr => "unknown address " ++ address addr
  | .invalidSize size => "invalid allocation size " ++ decimal size
  | .invalidAlignment align => "invalid alignment " ++ decimal align

def errnoText (errno : Int) : String :=
  if errno < 0 then "-" ++ decimal errno.natAbs else decimal errno.natAbs

def BackendError.message : BackendError → String
  | .invalidLength len => "segment length " ++ decimal len ++ " is not a positive page multiple"
  | .mapFailed len errno =>
      "mapping " ++ decimal len ++ " bytes failed (errno " ++ errnoText errno ++ ")"
  | .bindFailed node errno =>
      "binding segment to node " ++ decimal node ++ " failed (errno " ++ errnoText errno ++ ")"
  | .nodeOutOfRange node => "node " ++ decimal node ++ " is outside the supported nodemask"
  | .unmapFailed base errno =>
      "unmapping segment at " ++ address base ++ " failed (errno " ++ errnoText errno ++ ")"

/-- The wording of a failed growth; a backend's failure keeps its own. -/
def GrowError.message : GrowError → String
  | .capacityExceeded capacity committed wanted =>
      "capacity ceiling of " ++ decimal capacity ++ " bytes reached (" ++ decimal committed ++
        " committed, " ++ decimal wanted ++ " wanted)"
  | .backend cause => cause.message

def SettingError.message (err : SettingError) : String :=
  "invalid value " ++ Text.quoted err.value ++ " for " ++ err.key

def InvariantViolation.message : InvariantViolation → String
  | .bytesMismatch tier table arena =>
      tier.name ++ " accounting mismatch: table holds " ++ decimal table ++
        " bytes, allocator holds " ++ decimal arena
  | .countMismatch tier table arena =>
      tier.name ++ " block count mismatch: table holds " ++ decimal table ++
        ", allocator holds " ++ decimal arena
  | .overlap first second =>
      "blocks at " ++ address first ++ " and " ++ address second ++ " overlap"
  | .outsideArena addr tier =>
      "block at " ++ address addr ++ " lies outside every " ++ tier.name ++ " segment"

end TierHeap
