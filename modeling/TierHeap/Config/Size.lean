import TierHeap.Text.Blank
import TierHeap.Text.Digits
import TierHeap.Word

/-!
# Sizes as text

A size is a number of bytes, or of the binary units `k`, `m`, `g` and `t`, with an optional
`b` or `ib` at the end, in any case.  A size that is no word is refused.
-/

namespace TierHeap

inductive SizeUnit where
  | byte
  | kibi
  | mebi
  | gibi
  | tebi
  deriving DecidableEq, Repr

namespace SizeUnit

def ofLetter? (c : Char) : Option SizeUnit :=
  if c = 'k' then some .kibi
  else if c = 'm' then some .mebi
  else if c = 'g' then some .gibi
  else if c = 't' then some .tebi
  else none

def bytes : SizeUnit → Nat
  | .byte => Nat.pow 2 0
  | .kibi => Nat.pow 2 10
  | .mebi => Nat.pow 2 20
  | .gibi => Nat.pow 2 30
  | .tebi => Nat.pow 2 40

end SizeUnit

namespace Size

/-- Drop the mark of a byte count: `ib`, or else `b`. -/
def dropByteMark (cs : List Char) : List Char :=
  match Text.withoutSuffix? cs ['i', 'b'] with
  | some rest => rest
  | none => (Text.withoutSuffix? cs ['b']).getD cs

/-- Split off the letter of a unit at the end; no letter means bytes. -/
def splitUnit (cs : List Char) : List Char × SizeUnit :=
  match cs.getLast?.bind SizeUnit.ofLetter? with
  | some unit => (cs.dropLast, unit)
  | none => (cs, .byte)

def ofChars? (cs : List Char) : Option Nat :=
  let (digits, unit) := splitUnit (dropByteMark cs)
  (Text.numeral? Word.bound (Text.trimChars digits)).bind fun count =>
    Word.mulChecked? count unit.bytes

end Size

def parseSize? (s : String) : Option Nat :=
  Size.ofChars? (Text.asciiLower (Text.trimChars s.toList))

end TierHeap
