import CardGame.Snapshot.Utf8
import CardGame.Random.KeyedHash

/-!
The building blocks of a snapshot. Numbers have a fixed width and come with their lowest byte first;
lengths are 64-bit words, the variants of a type 32-bit ones; a text is its length in bytes and its
UTF-8 form; an optional value is a byte zero, or a byte one and the value.
-/

namespace CardGame.Snapshot

open CardGame.Random (bytesOfWord littleEndian)

inductive DecodeError where
  | endOfFile
  | badBool (found : UInt8)
  | badOption (found : UInt8)
  | badText (f : Utf8Fault)
  | badVariant (found variants : Nat)
  /-- A list is announced that no memory holds; `bytes` is the room it would take. -/
  | noRoom (bytes : Nat)
deriving DecidableEq, Repr

def DecodeError.message : DecodeError → String
  | endOfFile => "io error: unexpected end of file"
  | badBool n => s!"invalid u8 while decoding bool, expected 0 or 1, found {n.toNat}"
  | badOption n => s!"tag for enum is not valid, found {n.toNat}"
  | badText f => "string is not valid utf8: " ++ f.message
  | badVariant n k =>
    "invalid value: integer \x60" ++ toString n ++ "\x60, expected variant index 0 <= i < "
      ++ toString k
  | noRoom bytes =>
    if bytes < 0x8000000000000000 then
      "Allocation error: AllocErr \x7b layout: Layout \x7b size: " ++ toString bytes
        ++ ", align: 8 (1 << 3) \x7d \x7d"
    else "Allocation error: CapacityOverflow"

/-- A decoder reads a value from the front of some bytes and leaves the rest. -/
abbrev Decoder := StateT (List UInt8) (Except DecodeError)

structure Codec (α : Type) where
  encode : α → List UInt8
  decode : Decoder α

namespace Codec

variable {α β γ : Type}

def takeBytes (n : Nat) : Decoder (List UInt8) := fun bytes =>
  if n ≤ bytes.length then .ok (bytes.take n, bytes.drop n) else .error .endOfFile

def byte : Decoder UInt8
  | [] => .error .endOfFile
  | b :: rest => .ok (b, rest)

def word64 : Codec UInt64 where
  encode := bytesOfWord
  decode := do return littleEndian (← takeBytes 8)

def word32 : Codec UInt32 where
  encode w := (bytesOfWord w.toUInt64).take 4
  decode := do return (littleEndian (← takeBytes 4)).toUInt32

def signed64 : Codec Int64 where
  encode n := word64.encode n.toUInt64
  decode := do return (← word64.decode).toInt64

def bool : Codec Bool where
  encode b := [if b then 1 else 0]
  decode := do
    let b ← byte
    if b = 0 then return false
    else if b = 1 then return true
    else throw (.badBool b)

def text : Codec String where
  encode s :=
    let bytes := encodeText s
    word64.encode (UInt64.ofNat bytes.length) ++ bytes
  decode := do
    let length ← word64.decode
    let bytes ← takeBytes length.toNat
    match decodeText bytes with
    | .ok s => return s
    | .error f => throw (.badText f)

def repeated (item : Decoder α) : Nat → Decoder (List α)
  | 0 => return []
  | n + 1 => do
    let a ← item
    let rest ← repeated item n
    return a :: rest

def decodeList (item : Decoder α) : Decoder (List α) := do
  let length ← word64.decode
  repeated item length.toNat

def encodeList (item : α → List UInt8) (as : List α) : List UInt8 :=
  word64.encode (UInt64.ofNat as.length) ++ as.flatMap item

def list (item : Codec α) : Codec (List α) where
  encode := encodeList item.encode
  decode := decodeList item.decode

/-- The room for `n` items of `width` bytes: that of the next power of two of them. -/
def room (width n : Nat) : Nat :=
  width * n.nextPowerOfTwo

/-- A list of values for which room is made before the first is read. An item takes `width` bytes
of memory, of which there are fewer than `2 ^ 47`. -/
def reservedList (width : Nat) (item : Codec α) : Codec (List α) where
  encode := encodeList item.encode
  decode := do
    let length ← word64.decode
    let needed := room width length.toNat
    if needed < 0x800000000000 then repeated item.decode length.toNat else throw (.noRoom needed)

def decodeOption (item : Decoder α) : Decoder (Option α) := do
  let b ← byte
  if b = 0 then return none
  else if b = 1 then return some (← item)
  else throw (.badOption b)

def encodeOption (item : α → List UInt8) : Option α → List UInt8
  | none => [0]
  | some a => 1 :: item a

def option (item : Codec α) : Codec (Option α) where
  encode := encodeOption item.encode
  decode := decodeOption item.decode

def variant (variants : Nat) : Decoder Nat := do
  let n := (← word32.decode).toNat
  if n < variants then return n else throw (.badVariant n variants)

def tag (n : Nat) : List UInt8 :=
  word32.encode (UInt32.ofNat n)

def choice [BEq α] (values : List α) : Codec α where
  encode a := tag (values.idxOf a)
  decode := do
    let n := (← word32.decode).toNat
    match values[n]? with
    | some a => return a
    | none => throw (.badVariant n values.length)

def imap (item : Codec α) (ofItem : α → β) (toItem : β → α) : Codec β where
  encode b := item.encode (toItem b)
  decode := ofItem <$> item.decode

def pair (first : Codec α) (second : Codec β) : Codec (α × β) where
  encode := fun (a, b) => first.encode a ++ second.encode b
  decode := do
    let a ← first.decode
    let b ← second.decode
    return (a, b)

end Codec

end CardGame.Snapshot
