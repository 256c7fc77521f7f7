import TierHeap.Text.Digits
import TierHeap.Text.GraphemeExtend
import TierHeap.Text.Ignorable
import TierHeap.Text.Unprintable

/-!
# Quoted text

Text shown inside a message stands between double quotes.  The quote, the backslash and
the usual controls have short escapes; other characters that would not show, and marks that
would attach to the character before them, are written by code point.
-/

namespace TierHeap.Text

def codeEscape (c : Char) : List Char :=
  ['\\', 'u', '{'] ++ Nat.toDigits 16 c.toNat ++ ['}']

/-- The halfwidth sound marks follow the letter they belong to in a cell of their own. -/
def isHalfwidthSoundMark (c : Char) : Bool :=
  c = '\uff9e' || c = '\uff9f'

/-- The character would not show between quotes, or would show as a part of the one before
it. -/
def isHidden (c : Char) : Bool :=
  (extendsGrapheme c && !isHalfwidthSoundMark c) || isIgnorable c || isUnprintable c

def quotedChar (c : Char) : List Char :=
  if c = '"' then ['\\', '"']
  else if c = '\\' then ['\\', '\\']
  else if c = '\t' then ['\\', 't']
  else if c = '\n' then ['\\', 'n']
  else if c = '\r' then ['\\', 'r']
  else if c.toNat = 0 then ['\\', '0']
  else if ' ' ≤ c ∧ c ≤ '~' then [c]
  else if isHidden c then codeEscape c
  else [c]

def quoted (s : String) : String :=
  String.ofList ('"' :: s.toList.flatMap quotedChar ++ ['"'])

end TierHeap.Text
