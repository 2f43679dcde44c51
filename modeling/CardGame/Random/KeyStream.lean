/-!
A stream of random words from a 64-bit seed. The seed fills a 256-bit key, and the key's ChaCha
blocks with eight rounds and a zero nonce, laid end to end, are the stream. A word is a function of
the key and its place in the stream, so a generator is no more than a key and a position.
-/

namespace CardGame.Random

abbrev Block := Vector UInt32 16

def rotateLeft (w : UInt32) (turn : UInt32) : UInt32 :=
  (w <<< turn) ||| (w >>> (32 - turn))

def quarterRound (s : Block) (a b c d : Fin 16) : Block :=
  let s := s.set a (s[a] + s[b])
  let s := s.set d (rotateLeft (s[d] ^^^ s[a]) 16)
  let s := s.set c (s[c] + s[d])
  let s := s.set b (rotateLeft (s[b] ^^^ s[c]) 12)
  let s := s.set a (s[a] + s[b])
  let s := s.set d (rotateLeft (s[d] ^^^ s[a]) 8)
  let s := s.set c (s[c] + s[d])
  s.set b (rotateLeft (s[b] ^^^ s[c]) 7)

def doubleRound (s : Block) : Block :=
  let s := quarterRound s 0 4 8 12
  let s := quarterRound s 1 5 9 13
  let s := quarterRound s 2 6 10 14
  let s := quarterRound s 3 7 11 15
  let s := quarterRound s 0 5 10 15
  let s := quarterRound s 1 6 11 12
  let s := quarterRound s 2 7 8 13
  quarterRound s 3 4 9 14

/-- The input of block number n: four constants, the key, the number and a zero nonce. -/
def blockInput (key : Vector UInt32 8) (n : UInt64) : Block :=
  #v[0x61707865, 0x3320646e, 0x79622d32, 0x6b206574,
    key[0], key[1], key[2], key[3], key[4], key[5], key[6], key[7],
    n.toUInt32, (n >>> 32).toUInt32, 0, 0]

def block (key : Vector UInt32 8) (n : UInt64) : Block :=
  let start := blockInput key n
  (Nat.repeat doubleRound 4 start).zipWith (· + ·) start

/-- One step of the generator that spreads a seed over a key. -/
def spread (state : UInt64) : UInt64 :=
  state * 6364136223846793005 + 11634580027462260723

def spreadWord (state : UInt64) : UInt32 :=
  let mixed := (((state >>> 18) ^^^ state) >>> 27).toUInt32
  let turn := (state >>> 59).toUInt32
  (mixed >>> turn) ||| (mixed <<< ((32 - turn) % 32))

/-- The key of a seed: the first eight words that spreading it puts out. -/
def keyOfSeed (seed : UInt64) : Vector UInt32 8 :=
  Vector.ofFn fun i => spreadWord (Nat.repeat spread (i.val + 1) seed)

structure KeyStream where
  seed : UInt64
  key : Vector UInt32 8
  position : Nat

namespace KeyStream

def ofSeed (seed : UInt64) : KeyStream :=
  ⟨seed, keyOfSeed seed, 0⟩

def wordAt (key : Vector UInt32 8) (place : Nat) : UInt32 :=
  (block key (UInt64.ofNat (place / 16))).get (Fin.ofNat 16 place)

def next32 (s : KeyStream) : UInt32 × KeyStream :=
  (wordAt s.key s.position, { s with position := s.position + 1 })

theorem next32_position (s : KeyStream) : s.next32.2.position = s.position + 1 := rfl

end KeyStream

end CardGame.Random
