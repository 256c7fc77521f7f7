import TierHeap.Json.Basic
import TierHeap.Word

/-!
# JSON tokens

The marks, literals, numbers and strings that a JSON text consists of, how each is written
(`Token.chars`) and how a text is split into them (`Token.scan`).  Blanks between tokens are
skipped; whether tokens may follow each other is not decided here.
-/

namespace TierHeap.Json

/-- The least parts of a JSON text. -/
inductive Token where
  | beginObject
  | endObject
  | beginArray
  | endArray
  | colon
  | comma
  | null
  | bool (value : Bool)
  | number (value : JsonNumber)
  | string (text : String)
  deriving DecidableEq, Repr

namespace Token

/-- How one character is written inside a string: the quote, the backslash and the controls
are escaped, all else stands for itself. -/
def stringChar (c : Char) : List Char :=
  if c = '"' then ['\\', '"']
  else if c = '\\' then ['\\', '\\']
  else if c.toNat = 0x8 then ['\\', 'b']
  else if c.toNat = 0xc then ['\\', 'f']
  else if c = '\n' then ['\\', 'n']
  else if c = '\r' then ['\\', 'r']
  else if c = '\t' then ['\\', 't']
  else if c.toNat < 0x20 then ['\\', 'u'] ++ Text.zeroPad 4 (Nat.toDigits 16 c.toNat)
  else [c]

def stringChars (text : String) : List Char :=
  '"' :: text.toList.flatMap stringChar ++ ['"']

def numberChars : JsonNumber → List Char
  | .natural n => Nat.toDigits 10 n
  | .negative size => '-' :: Nat.toDigits 10 size
  | .double x => x.text.toList

def chars : Token → List Char
  | .beginObject => ['{']
  | .endObject => ['}']
  | .beginArray => ['[']
  | .endArray => [']']
  | .colon => [':']
  | .comma => [',']
  | .null => ['n', 'u', 'l', 'l']
  | .bool true => ['t', 'r', 'u', 'e']
  | .bool false => ['f', 'a', 'l', 's', 'e']
  | .number value => numberChars value
  | .string text => stringChars text

structure NumberParts where
  negative : Bool
  whole : List Char
  fraction : Option (List Char)
  exponent : Option (Bool × List Char)

/-- Split off a fraction, if there is one: a point and at least one digit. -/
def takeFraction? : List Char → Option (Option (List Char) × List Char)
  | '.' :: cs =>
      if cs.takeWhile Char.isDigit = [] then none
      else some (some (cs.takeWhile Char.isDigit), cs.dropWhile Char.isDigit)
  | cs => some (none, cs)

/-- Split off the digits of an exponent, at least one, with its sign given. -/
def takeExponentDigits?
    (negative : Bool)
    (cs : List Char) : Option (Option (Bool × List Char) × List Char) :=
  if cs.takeWhile Char.isDigit = [] then none
  else some (some (negative, cs.takeWhile Char.isDigit), cs.dropWhile Char.isDigit)

/-- Split off an exponent, if there is one: a letter, an optional sign and digits. -/
def takeExponent? : List Char → Option (Option (Bool × List Char) × List Char)
  | c :: cs =>
      if c = 'e' ∨ c = 'E' then
        match cs with
        | '+' :: rest => takeExponentDigits? false rest
        | '-' :: rest => takeExponentDigits? true rest
        | rest => takeExponentDigits? false rest
      else
        some (none, c :: cs)
  | [] => some (none, [])

/-- The whole part of a number: a zero alone, or digits that do not start with one. -/
def isWhole : List Char → Bool
  | [] => false
  | ['0'] => true
  | '0' :: _ => false
  | _ => true

def takeUnsigned?
    (negative : Bool)
    (cs : List Char) : Option (NumberParts × List Char) :=
  let whole := cs.takeWhile Char.isDigit
  if isWhole whole then
    (takeFraction? (cs.dropWhile Char.isDigit)).bind fun (fraction, afterFraction) =>
      (takeExponent? afterFraction).map fun (exponent, rest) =>
        (⟨negative, whole, fraction, exponent⟩, rest)
  else
    none

/-- The digits that still fit a word, and how many are left over. -/
def leadingWord
    (start : Nat) : List Char → Nat × Nat
  | [] => (start, 0)
  | c :: cs =>
      let next := start * 10 + Text.digitValue c
      if next < Word.bound then leadingWord next cs else (start, cs.length + 1)

def exponentValue : Option (Bool × List Char) → Int
  | none => 0
  | some (true, digits) => -(Text.digitsValue 0 digits : Int)
  | some (false, digits) => (Text.digitsValue 0 digits : Int)

/-- The double of a written number.  Only the leading digits that fit a word count; digits
of the whole part beyond them scale the value, digits of the fraction beyond them are
dropped. -/
def NumberParts.double? (parts : NumberParts) : Option Binary64 :=
  let (whole, skipped) := leadingWord 0 parts.whole
  let fraction := parts.fraction.getD []
  let (digits, dropped) := leadingWord whole fraction
  let places : Int := (fraction.length : Int) - (dropped : Int)
  let exponent := exponentValue parts.exponent + (skipped : Int) - places
  (Binary64.ofDecimal? digits exponent).map fun size =>
    if parts.negative then size.negate else size

/-- The value of a written number: a whole number where one is written and it fits, a double
otherwise, `none` beyond the largest double. -/
def NumberParts.value? (parts : NumberParts) : Option JsonNumber :=
  let size := Text.digitsValue 0 parts.whole
  if parts.fraction.isNone ∧ parts.exponent.isNone ∧ parts.negative = false ∧
      size < Word.bound then
    some (.natural size)
  else if parts.fraction.isNone ∧ parts.exponent.isNone ∧ parts.negative = true ∧
      0 < size ∧ size ≤ Nat.pow 2 63 then
    some (.negative size)
  else
    parts.double?.map .double

def takeNumber? (cs : List Char) : Option (JsonNumber × List Char) :=
  let parts :=
    match cs with
    | '-' :: rest => takeUnsigned? true rest
    | rest => takeUnsigned? false rest
  parts.bind fun (parts, rest) => parts.value?.map fun value => (value, rest)

def hexValue? (c : Char) : Option Nat :=
  if '0' ≤ c ∧ c ≤ '9' then some (c.toNat - '0'.toNat)
  else if 'a' ≤ c ∧ c ≤ 'f' then some (c.toNat - 'a'.toNat + 10)
  else if 'A' ≤ c ∧ c ≤ 'F' then some (c.toNat - 'A'.toNat + 10)
  else none

def hexQuad?
    (a b c d : Char) : Option Nat :=
  (hexValue? a).bind fun a =>
    (hexValue? b).bind fun b =>
      (hexValue? c).bind fun c =>
        (hexValue? d).map fun d => ((a * 16 + b) * 16 + c) * 16 + d

def shortEscape? (c : Char) : Option Char :=
  if c = '"' then some '"'
  else if c = '\\' then some '\\'
  else if c = '/' then some '/'
  else if c = 'b' then some (Char.ofNat 0x8)
  else if c = 'f' then some (Char.ofNat 0xc)
  else if c = 'n' then some '\n'
  else if c = 'r' then some '\r'
  else if c = 't' then some '\t'
  else none

/-- The code point of a pair of surrogates, if they are a pair. -/
def surrogatePair?
    (high low : Nat) : Option Nat :=
  if 0xd800 ≤ high ∧ high ≤ 0xdbff ∧ 0xdc00 ≤ low ∧ low ≤ 0xdfff then
    some (0x10000 + (high - 0xd800) * 0x400 + (low - 0xdc00))
  else
    none

/-- The code unit is no half of a surrogate pair. -/
def isScalar (unit : Nat) : Bool :=
  unit < 0xd800 || 0xdfff < unit

/-- Split off the rest of a string after its opening quote: the characters up to the closing
quote with their escapes undone.  Bare controls and halves of surrogate pairs are refused. -/
def takeString? : List Char → Option (List Char × List Char)
  | [] => none
  | '"' :: rest => some ([], rest)
  | '\\' :: 'u' :: a :: b :: c :: d :: '\\' :: 'u' :: e :: f :: g :: h :: rest =>
      match hexQuad? a b c d with
      | none => none
      | some unit =>
          if isScalar unit then
            (takeString? ('\\' :: 'u' :: e :: f :: g :: h :: rest)).map fun (text, left) =>
              (Char.ofNat unit :: text, left)
          else
            match (hexQuad? e f g h).bind (surrogatePair? unit) with
            | none => none
            | some code =>
                (takeString? rest).map fun (text, left) => (Char.ofNat code :: text, left)
  | '\\' :: 'u' :: a :: b :: c :: d :: rest =>
      match hexQuad? a b c d with
      | none => none
      | some unit =>
          if isScalar unit then
            (takeString? rest).map fun (text, left) => (Char.ofNat unit :: text, left)
          else
            none
  | '\\' :: c :: rest =>
      match shortEscape? c with
      | none => none
      | some escaped => (takeString? rest).map fun (text, left) => (escaped :: text, left)
  | c :: rest =>
      if c = '\\' ∨ c.toNat < 0x20 then none
      else (takeString? rest).map fun (text, left) => (c :: text, left)

def isGap (c : Char) : Bool :=
  c = ' ' || c = '\n' || c = '\t' || c = '\r'

def take? : List Char → Option (Token × List Char)
  | '{' :: rest => some (.beginObject, rest)
  | '}' :: rest => some (.endObject, rest)
  | '[' :: rest => some (.beginArray, rest)
  | ']' :: rest => some (.endArray, rest)
  | ':' :: rest => some (.colon, rest)
  | ',' :: rest => some (.comma, rest)
  | 'n' :: 'u' :: 'l' :: 'l' :: rest => some (.null, rest)
  | 't' :: 'r' :: 'u' :: 'e' :: rest => some (.bool true, rest)
  | 'f' :: 'a' :: 'l' :: 's' :: 'e' :: rest => some (.bool false, rest)
  | '"' :: rest =>
      (takeString? rest).map fun (text, left) => (.string (String.ofList text), left)
  | cs => (takeNumber? cs).map fun (value, rest) => (.number value, rest)

/-- Split a text into tokens, with at most as many steps as the fuel allows. -/
def scanWith : Nat → List Char → Option (List Token)
  | 0, cs => if cs.all isGap then some [] else none
  | fuel + 1, cs =>
      match cs.dropWhile isGap with
      | [] => some []
      | rest =>
          (take? rest).bind fun (token, left) =>
            (scanWith fuel left).map fun tokens => token :: tokens

/-- Split a text into tokens.  Every token has at least one character, so as many steps as
there are characters are enough. -/
def scan (cs : List Char) : Option (List Token) :=
  scanWith cs.length cs

end Token

end TierHeap.Json
