import TierHeap.Text.Blank

/-!
# Memory tiers

The two memory classes an allocation can be drawn from, their register encoding and their
names.  `PerTier` holds one value for each of them.
-/

namespace TierHeap

/-- Conventional host memory, or pooled memory behind a CXL interconnect. -/
inductive Tier where
  | host
  | cxl
  deriving DecidableEq, Repr, Inhabited

namespace Tier

def all : List Tier :=
  [.host, .cxl]

/-- The register encoding: 0 for host memory, 1 for CXL memory. -/
def raw : Tier → Nat
  | .host => 0
  | .cxl => 1

def ofRaw? : Nat → Option Tier
  | 0 => some .host
  | 1 => some .cxl
  | _ => none

def name : Tier → String
  | .host => "host"
  | .cxl => "cxl"

def ofName? (s : String) : Option Tier :=
  all.find? fun tier => tier.name == s

/-- Read a tier as people write it: trimmed, in any case, by name, nickname or encoding. -/
def parse? (s : String) : Option Tier :=
  let word := Text.keyword s
  if ["host", "dram", "local", "0"].contains word then some .host
  else if ["cxl", "remote", "far", "1"].contains word then some .cxl
  else none

def other : Tier → Tier
  | .host => .cxl
  | .cxl => .host

theorem mem_all (tier : Tier) : tier ∈ all := by
  cases tier <;> decide

theorem ofRaw?_raw (tier : Tier) : ofRaw? tier.raw = some tier := by
  cases tier <;> rfl

end Tier

structure PerTier (α : Type) where
  host : α
  cxl : α
  deriving DecidableEq, Repr, Inhabited

namespace PerTier

variable {α β : Type}

def both (value : α) : PerTier α :=
  ⟨value, value⟩

def get
    (values : PerTier α) : Tier → α
  | .host => values.host
  | .cxl => values.cxl

def set
    (values : PerTier α)
    (tier : Tier)
    (value : α) : PerTier α :=
  match tier with
  | .host => { values with host := value }
  | .cxl => { values with cxl := value }

def modify
    (values : PerTier α)
    (tier : Tier)
    (change : α → α) : PerTier α :=
  values.set tier (change (values.get tier))

def map
    (f : α → β)
    (values : PerTier α) : PerTier β :=
  ⟨f values.host, f values.cxl⟩

def ofFn (f : Tier → α) : PerTier α :=
  ⟨f .host, f .cxl⟩

def toList (values : PerTier α) : List α :=
  [values.host, values.cxl]

@[simp]
theorem get_set_self
    (values : PerTier α)
    (tier : Tier)
    (value : α) :
    (values.set tier value).get tier = value := by
  cases tier <;> rfl

@[simp]
theorem get_set_other
    (values : PerTier α)
    {tier changed : Tier}
    (different : tier ≠ changed)
    (value : α) :
    (values.set changed value).get tier = values.get tier := by
  cases tier <;> cases changed <;> simp_all [get, set]

@[simp]
theorem get_ofFn
    (f : Tier → α)
    (tier : Tier) :
    (ofFn f).get tier = f tier := by
  cases tier <;> rfl

theorem ext_get
    {first second : PerTier α}
    (same : ∀ tier, first.get tier = second.get tier) :
    first = second := by
  cases first
  cases second
  have hostSame := same .host
  have cxlSame := same .cxl
  simp_all [get]

end PerTier

end TierHeap
