import TierHeap.Text.Hex

/-!
# SHA-256

The digest of a list of bytes, as sixty-four hexadecimal digits.
-/

namespace TierHeap.Sha256

/-- The eight words that the digest is built in. -/
structure State where
  a : UInt32
  b : UInt32
  c : UInt32
  d : UInt32
  e : UInt32
  f : UInt32
  g : UInt32
  h : UInt32
  deriving DecidableEq, Repr

/-- The first 32 bits of the fractional parts of the square roots of the first eight
primes. -/
def initial : State :=
  ⟨0x6a09e667, 0xbb67ae85, 0x3c6ef372, 0xa54ff53a, 0x510e527f, 0x9b05688c, 0x1f83d9ab,
   0x5be0cd19⟩

/-- The first 32 bits of the fractional parts of the cube roots of the first 64 primes. -/
def roundConstants : List UInt32 :=
  [0x428a2f98, 0x71374491, 0xb5c0fbcf, 0xe9b5dba5, 0x3956c25b, 0x59f111f1, 0x923f82a4,
   0xab1c5ed5, 0xd807aa98, 0x12835b01, 0x243185be, 0x550c7dc3, 0x72be5d74, 0x80deb1fe,
   0x9bdc06a7, 0xc19bf174, 0xe49b69c1, 0xefbe4786, 0x0fc19dc6, 0x240ca1cc, 0x2de92c6f,
   0x4a7484aa, 0x5cb0a9dc, 0x76f988da, 0x983e5152, 0xa831c66d, 0xb00327c8, 0xbf597fc7,
   0xc6e00bf3, 0xd5a79147, 0x06ca6351, 0x14292967, 0x27b70a85, 0x2e1b2138, 0x4d2c6dfc,
   0x53380d13, 0x650a7354, 0x766a0abb, 0x81c2c92e, 0x92722c85, 0xa2bfe8a1, 0xa81a664b,
   0xc24b8b70, 0xc76c51a3, 0xd192e819, 0xd6990624, 0xf40e3585, 0x106aa070, 0x19a4c116,
   0x1e376c08, 0x2748774c, 0x34b0bcb5, 0x391c0cb3, 0x4ed8aa4a, 0x5b9cca4f, 0x682e6ff3,
   0x748f82ee, 0x78a5636f, 0x84c87814, 0x8cc70208, 0x90befffa, 0xa4506ceb, 0xbef9a3f7,
   0xc67178f2]

def rotate
    (word count : UInt32) : UInt32 :=
  (word >>> count) ||| (word <<< (32 - count))

def nextWord (schedule : Array UInt32) : UInt32 :=
  let back (places : Nat) : UInt32 := schedule.getD (schedule.size - places) 0
  let early := back 15
  let late := back 2
  let s0 := rotate early 7 ^^^ rotate early 18 ^^^ (early >>> 3)
  let s1 := rotate late 17 ^^^ rotate late 19 ^^^ (late >>> 10)
  back 16 + s0 + back 7 + s1

def schedule (block : List UInt32) : Array UInt32 :=
  (List.range 48).foldl (fun words _ => words.push (nextWord words)) block.toArray

def round
    (state : State)
    (constant word : UInt32) : State :=
  let s1 := rotate state.e 6 ^^^ rotate state.e 11 ^^^ rotate state.e 25
  let choice := (state.e &&& state.f) ^^^ (~~~state.e &&& state.g)
  let first := state.h + s1 + choice + constant + word
  let s0 := rotate state.a 2 ^^^ rotate state.a 13 ^^^ rotate state.a 22
  let majority := (state.a &&& state.b) ^^^ (state.a &&& state.c) ^^^ (state.b &&& state.c)
  ⟨first + s0 + majority, state.a, state.b, state.c, state.d + first, state.e, state.f, state.g⟩

def State.add
    (x y : State) : State :=
  ⟨x.a + y.a, x.b + y.b, x.c + y.c, x.d + y.d, x.e + y.e, x.f + y.f, x.g + y.g, x.h + y.h⟩

def compress
    (state : State)
    (block : List UInt32) : State :=
  state.add
    ((roundConstants.zip (schedule block).toList).foldl
      (fun current (constant, word) => round current constant word) state)

def compressAll : Nat → List UInt32 → State → State
  | 0, _, state => state
  | count + 1, words, state =>
      compressAll count (words.drop 16) (compress state (words.take 16))

def bigEndian
    (count n : Nat) : List UInt8 :=
  (List.range count).map fun place => UInt8.ofNat (n / Nat.pow 256 (count - 1 - place))

/-- The message with its end mark, zeros up to a whole number of blocks, and its length in
bits. -/
def pad (bytes : List UInt8) : List UInt8 :=
  let len := bytes.length
  bytes ++ 0x80 :: List.replicate ((119 - len % 64) % 64) 0 ++ bigEndian 8 (8 * len)

def toWords : List UInt8 → List UInt32
  | p :: q :: r :: s :: rest =>
      ((p.toUInt32 <<< 24) ||| (q.toUInt32 <<< 16) ||| (r.toUInt32 <<< 8) ||| s.toUInt32) ::
        toWords rest
  | _ => []

def digestWords (bytes : List UInt8) : List UInt32 :=
  let words := toWords (pad bytes)
  let state := compressAll (words.length / 16) words initial
  [state.a, state.b, state.c, state.d, state.e, state.f, state.g, state.h]

def hexDigest (bytes : List UInt8) : String :=
  String.ofList (Text.Hex.encode ((digestWords bytes).flatMap fun word => bigEndian 4 word.toNat))

end TierHeap.Sha256
