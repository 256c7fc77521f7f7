/-!
# Digits

Decimal and hexadecimal numerals.  Numerals are read with an optional leading `+`, any
number of leading zeros and at least one digit, and are refused at and above a bound.
-/

namespace TierHeap.Text

/-- The decimal numeral of a number, without leading zeros. -/
def decimal (n : Nat) : String :=
  String.ofList (Nat.toDigits 10 n)

def zeroPad
    (width : Nat)
    (digits : List Char) : List Char :=
  List.replicate (width - digits.length) '0' ++ digits

def decimalPadded
    (width n : Nat) : String :=
  String.ofList (zeroPad width (Nat.toDigits 10 n))

def hex (n : Nat) : String :=
  String.ofList (Nat.toDigits 16 n)

def hexPadded
    (width n : Nat) : String :=
  String.ofList (zeroPad width (Nat.toDigits 16 n))

/-- An address as text: `0x` and its hexadecimal numeral. -/
def address (n : Nat) : String :=
  "0x" ++ hex n

def digitValue (c : Char) : Nat :=
  c.toNat - '0'.toNat

/-- The number a list of decimal digits stands for, continuing from `start`. -/
def digitsValue
    (start : Nat)
    (digits : List Char) : Nat :=
  digits.foldl (fun value c => value * 10 + digitValue c) start

/-- Read digits alone: at least one, and a value below the bound. -/
def digits?
    (bound : Nat)
    (cs : List Char) : Option Nat :=
  if cs ≠ [] ∧ cs.all Char.isDigit ∧ digitsValue 0 cs < bound then
    some (digitsValue 0 cs)
  else
    none

/-- Read a numeral below the bound, with an optional `+` in front. -/
def numeral?
    (bound : Nat) : List Char → Option Nat
  | '+' :: cs => digits? bound cs
  | cs => digits? bound cs

end TierHeap.Text
