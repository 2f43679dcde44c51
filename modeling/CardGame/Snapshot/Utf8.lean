/-!
Reading UTF-8. A sequence of bytes either is the text of some characters, or there is a first place
where it stops being one: there a character is cut off by the end, or one to three bytes belong to
no character.
-/

namespace CardGame.Snapshot

/-- Where bytes stop being UTF-8; without a length the last character is incomplete. -/
structure Utf8Fault where
  validUpTo : Nat
  badBytes : Option Nat
deriving DecidableEq, Repr

def Utf8Fault.message (f : Utf8Fault) : String :=
  match f.badBytes with
  | some n => s!"invalid utf-8 sequence of {n} bytes from index {f.validUpTo}"
  | none => s!"incomplete utf-8 byte sequence from index {f.validUpTo}"

def isContinuation (b : UInt8) : Bool :=
  0x80 ≤ b && b ≤ 0xbf

/-- The bytes that may follow the first byte of a character of several bytes. -/
def mayFollow (first second : UInt8) : Bool :=
  isContinuation second &&
    (if first = 0xe0 then 0xa0 ≤ second
    else if first = 0xed then second ≤ 0x9f
    else if first = 0xf0 then 0x90 ≤ second
    else if first = 0xf4 then second ≤ 0x8f
    else true)

/-- The number of bytes of a character by its first one; none has that first byte at zero. -/
def characterWidth (first : UInt8) : Nat :=
  if first ≤ 0x7f then 1
  else if 0xc2 ≤ first && first ≤ 0xdf then 2
  else if 0xe0 ≤ first && first ≤ 0xef then 3
  else if 0xf0 ≤ first && first ≤ 0xf4 then 4
  else 0

def lowBits (b : UInt8) : Nat :=
  b.toNat % 64

/-- The first character of some bytes and the number of its bytes, or else the number of bytes that
belong to no character, unknown when the end cuts the character off. -/
def firstCharacter (first : UInt8) (rest : List UInt8) : Except (Option Nat) (Char × Nat) :=
  match characterWidth first, rest with
  | 1, _ => .ok (Char.ofNat first.toNat, 1)
  | 2, [] => .error none
  | 2, b :: _ =>
    if mayFollow first b then
      .ok (Char.ofNat ((first.toNat % 32) * 64 + lowBits b), 2)
    else .error (some 1)
  | 3, [] => .error none
  | 3, b :: rest =>
    if mayFollow first b then
      match rest with
      | [] => .error none
      | c :: _ =>
        if isContinuation c then
          .ok (Char.ofNat ((first.toNat % 16) * 4096 + lowBits b * 64 + lowBits c), 3)
        else .error (some 2)
    else .error (some 1)
  | 4, [] => .error none
  | 4, b :: rest =>
    if mayFollow first b then
      match rest with
      | [] => .error none
      | [c] => if isContinuation c then .error none else .error (some 2)
      | c :: d :: _ =>
        if isContinuation c then
          if isContinuation d then
            .ok (Char.ofNat
              ((first.toNat % 8) * 262144 + lowBits b * 4096 + lowBits c * 64 + lowBits d), 4)
          else .error (some 3)
        else .error (some 2)
    else .error (some 1)
  | _, _ => .error (some 1)

def charactersFrom (offset : Nat) : List UInt8 → Except Utf8Fault (List Char)
  | [] => .ok []
  | first :: rest =>
    match firstCharacter first rest with
    | .error bad => .error ⟨offset, bad⟩
    | .ok (c, width) => do
      let cs ← charactersFrom (offset + width) (rest.drop (width - 1))
      return c :: cs
termination_by bytes => bytes.length
decreasing_by
  simp only [List.length_drop, List.length_cons]
  omega

def encodeText (s : String) : List UInt8 :=
  s.toList.flatMap String.utf8EncodeChar

def decodeText (bytes : List UInt8) : Except Utf8Fault String := do
  return String.ofList (← charactersFrom 0 bytes)

end CardGame.Snapshot
