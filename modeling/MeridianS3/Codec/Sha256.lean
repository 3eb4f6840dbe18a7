import Mathlib.Data.List.Basic

namespace Codec

namespace Sha256

def WORD : Nat := 4294967296

def ROUND_CONSTANTS : List Nat :=
  [0x428a2f98, 0x71374491, 0xb5c0fbcf, 0xe9b5dba5, 0x3956c25b, 0x59f111f1, 0x923f82a4, 0xab1c5ed5,
   0xd807aa98, 0x12835b01, 0x243185be, 0x550c7dc3, 0x72be5d74, 0x80deb1fe, 0x9bdc06a7, 0xc19bf174,
   0xe49b69c1, 0xefbe4786, 0x0fc19dc6, 0x240ca1cc, 0x2de92c6f, 0x4a7484aa, 0x5cb0a9dc, 0x76f988da,
   0x983e5152, 0xa831c66d, 0xb00327c8, 0xbf597fc7, 0xc6e00bf3, 0xd5a79147, 0x06ca6351, 0x14292967,
   0x27b70a85, 0x2e1b2138, 0x4d2c6dfc, 0x53380d13, 0x650a7354, 0x766a0abb, 0x81c2c92e, 0x92722c85,
   0xa2bfe8a1, 0xa81a664b, 0xc24b8b70, 0xc76c51a3, 0xd192e819, 0xd6990624, 0xf40e3585, 0x106aa070,
   0x19a4c116, 0x1e376c08, 0x2748774c, 0x34b0bcb5, 0x391c0cb3, 0x4ed8aa4a, 0x5b9cca4f, 0x682e6ff3,
   0x748f82ee, 0x78a5636f, 0x84c87814, 0x8cc70208, 0x90befffa, 0xa4506ceb, 0xbef9a3f7, 0xc67178f2]

-- The eight working words.
structure State where
  a : Nat
  b : Nat
  c : Nat
  d : Nat
  e : Nat
  f : Nat
  g : Nat
  h : Nat

def INITIAL : State :=
  ⟨0x6a09e667, 0xbb67ae85, 0x3c6ef372, 0xa54ff53a, 0x510e527f, 0x9b05688c, 0x1f83d9ab, 0x5be0cd19⟩

def rotate (word count : Nat) : Nat :=
  (word >>> count) ||| ((word <<< (32 - count)) % WORD)

def round (state : State) (constant word : Nat) : State :=
  let s1 := rotate state.e 6 ^^^ rotate state.e 11 ^^^ rotate state.e 25
  let choice := (state.e &&& state.f) ^^^ ((WORD - 1 - state.e) &&& state.g)
  let first := (state.h + s1 + choice + constant + word) % WORD
  let s0 := rotate state.a 2 ^^^ rotate state.a 13 ^^^ rotate state.a 22
  let majority := (state.a &&& state.b) ^^^ (state.a &&& state.c) ^^^ (state.b &&& state.c)
  let second := (s0 + majority) % WORD
  { a := (first + second) % WORD
    b := state.a
    c := state.b
    d := state.c
    e := (state.d + first) % WORD
    f := state.e
    g := state.f
    h := state.g }

-- The word after a window of sixteen of the message schedule, oldest first.
def nextWord : List Nat → Nat
  | [w0, w1, _, _, _, _, _, _, _, w9, _, _, _, _, w14, _] =>
      let s0 := rotate w1 7 ^^^ rotate w1 18 ^^^ (w1 >>> 3)
      let s1 := rotate w14 17 ^^^ rotate w14 19 ^^^ (w14 >>> 10)
      (w0 + s0 + w9 + s1) % WORD
  | _ => 0

def rounds : List Nat → List Nat → State → State
  | [], _, state => state
  | constant :: rest, window, state =>
      rounds rest (window.drop 1 ++ [nextWord window]) (round state constant (window.headD 0))

def compress (state : State) (block : List Nat) : State :=
  let next := rounds ROUND_CONSTANTS block state
  { a := (state.a + next.a) % WORD
    b := (state.b + next.b) % WORD
    c := (state.c + next.c) % WORD
    d := (state.d + next.d) % WORD
    e := (state.e + next.e) % WORD
    f := (state.f + next.f) % WORD
    g := (state.g + next.g) % WORD
    h := (state.h + next.h) % WORD }

def lengthBytes (length : Nat) : List Nat :=
  (List.range 8).map fun index => (8 * length) >>> (8 * (7 - index)) % 256

def padded (message : List UInt8) : List Nat :=
  message.map UInt8.toNat ++ 128 :: List.replicate ((119 - message.length % 64) % 64) 0 ++
    lengthBytes message.length

def toWords : List Nat → List Nat
  | a :: b :: c :: d :: rest => (a * 16777216 + b * 65536 + c * 256 + d) :: toWords rest
  | _ => []

def blocks : Nat → List Nat → State → State
  | 0, _, state => state
  | count + 1, words, state => blocks count (words.drop 16) (compress state (words.take 16))

def hash (message : List UInt8) : State :=
  let words := toWords (padded message)
  blocks (words.length / 16) words INITIAL

end Sha256

def HEX_DIGITS : List Char := "0123456789abcdef".toList

def hexDigit (value : Nat) : Char := HEX_DIGITS.getD (value % 16) '0'

def hexWord (word : Nat) : List Char :=
  (List.range 8).map fun index => hexDigit (word >>> (4 * (7 - index)))

def sha256Hex (message : List UInt8) : List Char :=
  let state := Sha256.hash message
  [state.a, state.b, state.c, state.d, state.e, state.f, state.g, state.h].flatMap hexWord

theorem hexDigit_mem (value : Nat) : hexDigit value ∈ HEX_DIGITS := by
  have hall : ∀ value : Fin 16, HEX_DIGITS.getD value '0' ∈ HEX_DIGITS := by decide
  exact hall ⟨value % 16, Nat.mod_lt _ (by decide)⟩

theorem hexWord_mem {word : Nat} {character : Char} (h : character ∈ hexWord word) :
    character ∈ HEX_DIGITS := by
  obtain ⟨index, -, rfl⟩ := List.mem_map.mp h
  exact hexDigit_mem _

theorem sha256Hex_mem {message : List UInt8} {character : Char}
    (h : character ∈ sha256Hex message) : character ∈ HEX_DIGITS := by
  obtain ⟨word, -, hword⟩ := List.mem_flatMap.mp h
  exact hexWord_mem hword

theorem sha256Hex_length (message : List UInt8) : (sha256Hex message).length = 64 := by
  simp [sha256Hex, hexWord]

-- The digest of the three letters of the standard's first example.
example : sha256Hex [97, 98, 99] =
    "ba7816bf8f01cfea414140de5dae2223b00361a396177a9cb410ff61f20015ad".toList := by
  decide +kernel

end Codec
