/-!
# Keyed hash

SipHash with one round for each word of the message and three at the end, under
the all-zero key. The message is read as little-endian words of eight bytes; the
last word holds what is left over and, in its highest byte, the length of the
message.
-/

namespace Matryoshka

/-- The four words that the hash works on. -/
structure KeyedHash where
  /-- First word. -/
  v0 : UInt64
  /-- Second word. -/
  v1 : UInt64
  /-- Third word. -/
  v2 : UInt64
  /-- Fourth word. -/
  v3 : UInt64

namespace KeyedHash

/-- The state before the first word, under the all-zero key. -/
def start : KeyedHash :=
  ⟨0x736f6d6570736575, 0x646f72616e646f6d, 0x6c7967656e657261, 0x7465646279746573⟩

/-- Rotation of a word to the left by `n` bits, for `n` between 1 and 63. -/
def rotateLeft (word n : UInt64) : UInt64 := (word <<< n) ||| (word >>> (64 - n))

/-- One round of mixing. -/
def round (s : KeyedHash) : KeyedHash :=
  let v0 := s.v0 + s.v1
  let v2 := s.v2 + s.v3
  let v1 := rotateLeft s.v1 13 ^^^ v0
  let v0 := rotateLeft v0 32
  let v3 := rotateLeft s.v3 16 ^^^ v2
  let v0 := v0 + v3
  let v3 := rotateLeft v3 21 ^^^ v0
  let v2 := v2 + v1
  let v1 := rotateLeft v1 17 ^^^ v2
  let v2 := rotateLeft v2 32
  ⟨v0, v1, v2, v3⟩

/-- Take one word of the message in. -/
def absorb (s : KeyedHash) (word : UInt64) : KeyedHash :=
  let mixed := round { s with v3 := s.v3 ^^^ word }
  { mixed with v0 := mixed.v0 ^^^ word }

/-- The word whose bytes are `bytes`, the first one lowest. -/
def littleEndian (bytes : List UInt8) : UInt64 :=
  bytes.foldr (fun byte word => (word <<< 8) ||| byte.toUInt64) 0

/-- Take the rest of a message of `length` bytes in. -/
def absorbRest (s : KeyedHash) (length : UInt64) : List UInt8 → KeyedHash
  | b0 :: b1 :: b2 :: b3 :: b4 :: b5 :: b6 :: b7 :: rest =>
    absorbRest (s.absorb (littleEndian [b0, b1, b2, b3, b4, b5, b6, b7])) length rest
  | last => s.absorb (littleEndian last ||| (length <<< 56))

/-- The word that the state comes down to. -/
def finish (s : KeyedHash) : UInt64 :=
  let mixed := round (round (round { s with v2 := s.v2 ^^^ 0xff }))
  mixed.v0 ^^^ mixed.v1 ^^^ mixed.v2 ^^^ mixed.v3

/-- The hash of a message. -/
def ofBytes (message : List UInt8) : UInt64 :=
  (start.absorbRest (UInt64.ofNat message.length) message).finish

end KeyedHash

end Matryoshka
