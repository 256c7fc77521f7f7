/-!
# Blank characters, trimming and ASCII case

`isBlank` is the white space of the Unicode character database.  Trimming removes it from
both ends; lower-casing changes the letters `A` to `Z` only.
-/

namespace TierHeap.Text

/-- The code points with the property `White_Space`. -/
def blankCodes : List (Nat × Nat) :=
  [(0x9, 0xd), (0x20, 0x20), (0x85, 0x85), (0xa0, 0xa0), (0x1680, 0x1680),
   (0x2000, 0x200a), (0x2028, 0x2029), (0x202f, 0x202f), (0x205f, 0x205f),
   (0x3000, 0x3000)]

/-- White space, in ASCII and beyond. -/
def isBlank (c : Char) : Bool :=
  blankCodes.any fun range => range.1 ≤ c.toNat && c.toNat ≤ range.2

def trimChars (cs : List Char) : List Char :=
  ((cs.dropWhile isBlank).reverse.dropWhile isBlank).reverse

def trim (s : String) : String :=
  String.ofList (trimChars s.toList)

def asciiLower (cs : List Char) : List Char :=
  cs.map Char.toLower

/-- The form in which keywords are compared: trimmed, in lower case. -/
def keyword (s : String) : String :=
  String.ofList (asciiLower (trimChars s.toList))

def isBlankText (s : String) : Bool :=
  s.toList.all isBlank

/-- The text without a given end, if it has it. -/
def withoutSuffix?
    (cs ending : List Char) : Option (List Char) :=
  if ending.isSuffixOf cs then some (cs.take (cs.length - ending.length)) else none

end TierHeap.Text
