/-!
# Bytes as hexadecimal digits

Every byte is written as two lower-case digits, and two digits of either case are read as a
byte.  Reading gives back the bytes that were written.
-/

namespace TierHeap.Text.Hex

def byteDigits (byte : UInt8) : List Char :=
  [Nat.digitChar (byte.toNat / 16), Nat.digitChar (byte.toNat % 16)]

def encode (bytes : List UInt8) : List Char :=
  bytes.flatMap byteDigits

def digit? (c : Char) : Option Nat :=
  if '0' ≤ c ∧ c ≤ '9' then some (c.toNat - 48)
  else if 'a' ≤ c ∧ c ≤ 'f' then some (c.toNat - 87)
  else if 'A' ≤ c ∧ c ≤ 'F' then some (c.toNat - 55)
  else none

def byte? (high low : Char) : Option UInt8 :=
  match digit? high, digit? low with
  | some high, some low => some (UInt8.ofNat (high * 16 + low))
  | _, _ => none

/-- Read bytes; an odd number of digits, or another character, is refused. -/
def decode? : List Char → Option (List UInt8)
  | [] => some []
  | [_] => none
  | high :: low :: rest =>
      match byte? high low, decode? rest with
      | some byte, some bytes => some (byte :: bytes)
      | _, _ => none

theorem digit?_digitChar
    {n : Nat}
    (small : n < 16) :
    digit? (Nat.digitChar n) = some n := by
  have every : ∀ k : Fin 16, digit? (Nat.digitChar k.val) = some k.val := by decide
  exact every ⟨n, small⟩

theorem decode?_encode (bytes : List UInt8) : decode? (encode bytes) = some bytes := by
  induction bytes with
  | nil => rfl
  | cons byte rest ih =>
      have bounded : byte.toNat < 256 := byte.toNat_lt
      have high : digit? (Nat.digitChar (byte.toNat / 16)) = some (byte.toNat / 16) :=
        digit?_digitChar (by omega)
      have low : digit? (Nat.digitChar (byte.toNat % 16)) = some (byte.toNat % 16) :=
        digit?_digitChar (by omega)
      have whole : byte.toNat / 16 * 16 + byte.toNat % 16 = byte.toNat := by omega
      have step : encode (byte :: rest) = byteDigits byte ++ encode rest := rfl
      rw [step]
      simp only [byteDigits, List.cons_append, List.nil_append, decode?, byte?, high, low, ih,
        whole, UInt8.ofNat_toNat]

end TierHeap.Text.Hex
