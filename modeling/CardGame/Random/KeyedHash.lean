/-!
A 64-bit hash of bytes: SipHash with one mixing round for each word, three at the end, and a zero
key. It derives the seed of an independent stream from a seed and a label.
-/

namespace CardGame.Random

structure HashState where
  v0 : UInt64
  v1 : UInt64
  v2 : UInt64
  v3 : UInt64

def rotateLeft64 (w : UInt64) (turn : UInt64) : UInt64 :=
  (w <<< turn) ||| (w >>> (64 - turn))

namespace HashState

def start : HashState :=
  ⟨0x736f6d6570736575, 0x646f72616e646f6d, 0x6c7967656e657261, 0x7465646279746573⟩

def round (s : HashState) : HashState :=
  let v0 := s.v0 + s.v1
  let v1 := rotateLeft64 s.v1 13 ^^^ v0
  let v0 := rotateLeft64 v0 32
  let v2 := s.v2 + s.v3
  let v3 := rotateLeft64 s.v3 16 ^^^ v2
  let v0 := v0 + v3
  let v3 := rotateLeft64 v3 21 ^^^ v0
  let v2 := v2 + v1
  let v1 := rotateLeft64 v1 17 ^^^ v2
  let v2 := rotateLeft64 v2 32
  ⟨v0, v1, v2, v3⟩

def absorb (s : HashState) (word : UInt64) : HashState :=
  let s := { s with v3 := s.v3 ^^^ word }.round
  { s with v0 := s.v0 ^^^ word }

def digest (s : HashState) : UInt64 :=
  let s := { s with v2 := s.v2 ^^^ 0xff }.round.round.round
  s.v0 ^^^ s.v1 ^^^ s.v2 ^^^ s.v3

end HashState

def littleEndian (bytes : List UInt8) : UInt64 :=
  bytes.foldr (fun b n => (n <<< 8) ||| b.toUInt64) 0

def bytesOfWord (w : UInt64) : List UInt8 :=
  (List.range 8).map fun i => (w >>> (8 * UInt64.ofNat i)).toUInt8

/-- Take in whole words, then the bytes left over under the length of the whole. -/
def hashFrom (length : Nat) (s : HashState) (bytes : List UInt8) : UInt64 :=
  if 8 ≤ bytes.length then
    hashFrom length (s.absorb (littleEndian (bytes.take 8))) (bytes.drop 8)
  else
    (s.absorb (littleEndian bytes ||| (UInt64.ofNat length <<< 56))).digest
termination_by bytes.length
decreasing_by simp only [List.length_drop]; omega

def keyedHash (bytes : List UInt8) : UInt64 :=
  hashFrom bytes.length .start bytes

end CardGame.Random
