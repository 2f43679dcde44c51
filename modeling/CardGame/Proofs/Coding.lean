import CardGame.Snapshot.Bytes
import Mathlib.Data.Nat.Bitwise

/-!
Laws of codecs. A lawful codec reads back what it writes and leaves whatever follows, and what it
reads does not depend on bytes that it does not take; so it reads nothing from a proper part of what
it writes. Words, texts, lists, options and pairs keep these laws.
-/

namespace CardGame.Random

theorem toNat_littleEndian_cons (b : UInt8) {bytes : List UInt8}
    (bound : (littleEndian bytes).toNat < 2 ^ 56) :
    (littleEndian (b :: bytes)).toNat = b.toNat + 256 * (littleEndian bytes).toNat := by
  have small : b.toNat < 2 ^ 8 := b.toNat_lt
  have shifted : (littleEndian bytes).toNat <<< 8 < 2 ^ 64 := by
    rw [Nat.shiftLeft_eq]
    omega
  change ((littleEndian bytes <<< 8) ||| b.toUInt64).toNat = _
  rw [UInt64.toNat_or, UInt64.toNat_shiftLeft]
  change (littleEndian bytes).toNat <<< 8 % 2 ^ 64 ||| b.toNat = _
  rw [Nat.mod_eq_of_lt shifted, ← Nat.shiftLeft_add_eq_or_of_lt small, Nat.shiftLeft_eq]
  omega

theorem toNat_byteOfWord (w : UInt64) {i : Nat} (inside : i < 8) :
    (w >>> (8 * UInt64.ofNat i)).toUInt8.toNat = w.toNat / 256 ^ i % 256 := by
  have place : (8 * UInt64.ofNat i).toNat = 8 * i := by
    rw [UInt64.toNat_mul, UInt64.toNat_ofNat]
    change 8 * (i % 2 ^ 64) % 2 ^ 64 = 8 * i
    omega
  have turn : 8 * i % 64 = 8 * i := by omega
  rw [UInt64.toNat_toUInt8, UInt64.toNat_shiftRight, place, turn, Nat.shiftRight_eq_div_pow,
    Nat.pow_mul]

theorem toNat_littleEndian_bytes (w : UInt64) {i k : Nat} (inside : i + k ≤ 8) :
    (littleEndian ((List.range' i k).map fun j => (w >>> (8 * UInt64.ofNat j)).toUInt8)).toNat =
      w.toNat / 256 ^ i % 256 ^ k := by
  induction k generalizing i with
  | zero => simp [littleEndian, Nat.mod_one]
  | succ k ih =>
    have rest := ih (i := i + 1) (by omega)
    have bound : w.toNat / 256 ^ (i + 1) % 256 ^ k < 2 ^ 56 := by
      have few : 256 ^ k ≤ 256 ^ 7 := Nat.pow_le_pow_right (by decide) (by omega)
      exact Nat.lt_of_lt_of_le (Nat.mod_lt _ (Nat.pow_pos (by decide))) few
    rw [List.range'_succ, List.map_cons,
      toNat_littleEndian_cons _ (by rw [rest]; exact bound), rest, toNat_byteOfWord w (by omega),
      Nat.pow_succ 256 k, Nat.mul_comm _ 256, Nat.mod_mul, Nat.div_div_eq_div_mul, ← Nat.pow_succ]

theorem littleEndian_bytesOfWord (w : UInt64) : littleEndian (bytesOfWord w) = w := by
  apply UInt64.toNat_inj.1
  rw [bytesOfWord, List.range_eq_range', toNat_littleEndian_bytes w (by decide)]
  have := w.toNat_lt
  omega

theorem littleEndian_take_bytesOfWord (w : UInt32) :
    (littleEndian ((bytesOfWord w.toUInt64).take 4)).toUInt32 = w := by
  have front : (bytesOfWord w.toUInt64).take 4 =
      (List.range' 0 4).map fun j => (w.toUInt64 >>> (8 * UInt64.ofNat j)).toUInt8 := rfl
  apply UInt32.toNat_inj.1
  rw [UInt64.toNat_toUInt32, front, toNat_littleEndian_bytes _ (by decide), UInt32.toNat_toUInt64]
  have := w.toNat_lt
  omega

end CardGame.Random

namespace CardGame.Snapshot

open CardGame.Random (bytesOfWord littleEndian littleEndian_bytesOfWord
  littleEndian_take_bytesOfWord)

theorem toNat_byte {n : Nat} (byte : n < 256) : (UInt8.ofNat n).toNat = n :=
  UInt8.toNat_ofNat_of_lt' byte

theorem characterWidth_ofNat {n : Nat} (byte : n < 256) : characterWidth (UInt8.ofNat n) =
    if n ≤ 127 then 1 else if 194 ≤ n ∧ n ≤ 223 then 2 else if 224 ≤ n ∧ n ≤ 239 then 3
    else if 240 ≤ n ∧ n ≤ 244 then 4 else 0 := by
  simp only [characterWidth, UInt8.le_iff_toNat_le, toNat_byte byte, Bool.and_eq_true,
    decide_eq_true_eq]
  rfl

theorem lowBits_ofNat {n : Nat} (low : n < 64) : lowBits (UInt8.ofNat (n + 128)) = n := by
  rw [lowBits, toNat_byte (by omega)]
  omega

theorem isContinuation_ofNat {n : Nat} (low : n < 64) :
    isContinuation (UInt8.ofNat (n + 128)) := by
  simp only [isContinuation, UInt8.le_iff_toNat_le, toNat_byte (show n + 128 < 256 by omega),
    Bool.and_eq_true, decide_eq_true_eq]
  change 128 ≤ n + 128 ∧ n + 128 ≤ 191
  omega

theorem mayFollow_ofNat {f n : Nat} (byte : f < 256) (low : n < 64) (e0 : f = 224 → 32 ≤ n)
    (ed : f = 237 → n < 32) (f0 : f = 240 → 16 ≤ n) (f4 : f = 244 → n < 16) :
    mayFollow (UInt8.ofNat f) (UInt8.ofNat (n + 128)) := by
  simp only [mayFollow, isContinuation_ofNat low, Bool.true_and, ← UInt8.toNat_inj,
    UInt8.le_iff_toNat_le, toNat_byte byte, toNat_byte (show n + 128 < 256 by omega)]
  change (if f = 224 then decide (160 ≤ n + 128) else if f = 237 then decide (n + 128 ≤ 159)
    else if f = 240 then decide (144 ≤ n + 128) else if f = 244 then decide (n + 128 ≤ 143)
    else true) = true
  split_ifs <;> simp only [decide_eq_true_eq] <;> omega

section FirstCharacter

variable {first b c d : UInt8} (rest : List UInt8)

theorem firstCharacter_one (width : characterWidth first = 1) :
    firstCharacter first rest = .ok (Char.ofNat first.toNat, 1) := by
  simp [firstCharacter, width]

theorem firstCharacter_two (width : characterWidth first = 2) (follows : mayFollow first b) :
    firstCharacter first (b :: rest) =
      .ok (Char.ofNat (first.toNat % 32 * 64 + lowBits b), 2) := by
  simp [firstCharacter, width, follows]

theorem firstCharacter_three (width : characterWidth first = 3) (follows : mayFollow first b)
    (continues : isContinuation c) : firstCharacter first (b :: c :: rest) =
      .ok (Char.ofNat (first.toNat % 16 * 4096 + lowBits b * 64 + lowBits c), 3) := by
  simp [firstCharacter, width, follows, continues]

theorem firstCharacter_four (width : characterWidth first = 4) (follows : mayFollow first b)
    (continues : isContinuation c) (ends : isContinuation d) :
    firstCharacter first (b :: c :: d :: rest) =
      .ok (Char.ofNat (first.toNat % 8 * 262144 + lowBits b * 4096 + lowBits c * 64 + lowBits d),
        4) := by
  simp [firstCharacter, width, follows, continues, ends]

end FirstCharacter

theorem firstCharacter_utf8EncodeChar (c : Char) : ∃ first tail,
    String.utf8EncodeChar c = first :: tail ∧
      ∀ rest, firstCharacter first (tail ++ rest) = .ok (c, tail.length + 1) := by
  have valid : c.val.toNat < 55296 ∨ 57343 < c.val.toNat ∧ c.val.toNat < 1114112 := c.valid
  have back : ∀ n, n = c.val.toNat → Char.ofNat n = c := fun n same => same ▸ Char.ofNat_toNat c
  unfold String.utf8EncodeChar
  generalize c.val.toNat = v at valid back ⊢
  dsimp only
  split_ifs with one two three
  · have width : characterWidth (UInt8.ofNat v) = 1 := by
      rw [characterWidth_ofNat (by omega), if_pos one]
    refine ⟨_, [], rfl, fun rest => ?_⟩
    rw [List.nil_append, firstCharacter_one rest width, toNat_byte (by omega), back v rfl]
    rfl
  · have width : characterWidth (UInt8.ofNat (v / 64 % 32 + 192)) = 2 := by
      rw [characterWidth_ofNat (by omega), if_neg (by omega), if_pos (by omega)]
    have follows : mayFollow (UInt8.ofNat (v / 64 % 32 + 192)) (UInt8.ofNat (v % 64 + 128)) := by
      apply mayFollow_ofNat <;> omega
    refine ⟨_, [_], rfl, fun rest => ?_⟩
    rw [List.singleton_append, firstCharacter_two rest width follows, toNat_byte (by omega),
      lowBits_ofNat (by omega), back _ (by omega)]
    rfl
  · have width : characterWidth (UInt8.ofNat (v / 4096 % 16 + 224)) = 3 := by
      rw [characterWidth_ofNat (by omega), if_neg (by omega), if_neg (by omega), if_pos (by omega)]
    have follows :
        mayFollow (UInt8.ofNat (v / 4096 % 16 + 224)) (UInt8.ofNat (v / 64 % 64 + 128)) := by
      apply mayFollow_ofNat <;> omega
    refine ⟨_, [_, _], rfl, fun rest => ?_⟩
    rw [List.cons_append, List.singleton_append,
      firstCharacter_three rest width follows (isContinuation_ofNat (by omega)),
      toNat_byte (by omega), lowBits_ofNat (by omega), lowBits_ofNat (by omega), back _ (by omega)]
    rfl
  · have width : characterWidth (UInt8.ofNat (v / 262144 % 8 + 240)) = 4 := by
      rw [characterWidth_ofNat (by omega), if_neg (by omega), if_neg (by omega), if_neg (by omega),
        if_pos (by omega)]
    have follows :
        mayFollow (UInt8.ofNat (v / 262144 % 8 + 240)) (UInt8.ofNat (v / 4096 % 64 + 128)) := by
      apply mayFollow_ofNat <;> omega
    refine ⟨_, [_, _, _], rfl, fun rest => ?_⟩
    rw [List.cons_append, List.cons_append, List.singleton_append,
      firstCharacter_four rest width follows (isContinuation_ofNat (by omega))
        (isContinuation_ofNat (by omega)),
      toNat_byte (by omega), lowBits_ofNat (by omega), lowBits_ofNat (by omega),
      lowBits_ofNat (by omega), back _ (by omega)]
    rfl

theorem charactersFrom_flatMap (offset : Nat) (cs : List Char) :
    charactersFrom offset (cs.flatMap String.utf8EncodeChar) = .ok cs := by
  induction cs generalizing offset with
  | nil =>
    rw [List.flatMap_nil, charactersFrom]
  | cons c cs ih =>
    obtain ⟨first, tail, bytes, read⟩ := firstCharacter_utf8EncodeChar c
    rw [List.flatMap_cons, bytes, List.cons_append, charactersFrom, read]
    simp only [Nat.add_sub_cancel, List.drop_left, ih]
    rfl

theorem decodeText_encodeText (s : String) : decodeText (encodeText s) = .ok s := by
  rw [decodeText, encodeText, charactersFrom_flatMap]
  exact congrArg Except.ok String.ofList_toList

variable {α β : Type}

/-- From bytes that a 64-bit word counts, a decoder reads a value and leaves whatever follows. -/
def Reads (d : Decoder α) (bytes : List UInt8) (a : α) : Prop :=
  bytes.length < 2 ^ 64 → ∀ rest, d.run (bytes ++ rest) = .ok (a, rest)

/-- What one decoder reads, another one reads as well, also when more bytes follow. -/
def Extends (d e : Decoder α) : Prop :=
  ∀ bytes a rest more, d.run bytes = .ok (a, rest) → e.run (bytes ++ more) = .ok (a, rest ++ more)

theorem Reads.bind {d : Decoder α} {f : α → Decoder β} {xs ys : List UInt8} {a : α} {b : β}
    (first : Reads d xs a) (next : Reads (f a) ys b) : Reads (d >>= f) (xs ++ ys) b := by
  intro short rest
  rw [List.length_append] at short
  rw [StateT.run_bind, List.append_assoc, first (by omega)]
  exact next (by omega) rest

theorem reads_pure (a : α) : Reads (pure a) [] a :=
  fun _ _ => rfl

theorem Reads.ends {d : Decoder α} {f : α → Decoder β} {xs : List UInt8} {a : α} {b : β}
    (read : Reads d xs a) (same : f a = pure b) : Reads (d >>= f) xs b := by
  have last : Reads (f a) [] b := same ▸ reads_pure b
  have whole := read.bind last
  rwa [List.append_nil] at whole

theorem Reads.map {d : Decoder α} {xs : List UInt8} {a : α} (read : Reads d xs a) (f : α → β) :
    Reads (d >>= fun a => pure (f a)) xs (f a) :=
  read.ends rfl

theorem Extends.bind {d e : Decoder α} {f k : α → Decoder β} (first : Extends d e)
    (next : ∀ a, Extends (f a) (k a)) : Extends (d >>= f) (e >>= k) := by
  intro bytes b rest more ran
  rw [StateT.run_bind] at ran ⊢
  cases read : d.run bytes with
  | error fault =>
    rw [read] at ran
    exact nomatch ran
  | ok p =>
    rw [read] at ran
    rw [first bytes p.1 p.2 more read]
    exact next p.1 p.2 b rest more ran

theorem extends_pure (a : α) : Extends (pure a) (pure a) := by
  intro bytes b rest more ran
  cases ran
  rfl

theorem extends_throw (fault : DecodeError) (e : Decoder α) : Extends (throw fault) e :=
  fun _ _ _ _ ran => nomatch ran

theorem Extends.map {d e : Decoder α} (read : Extends d e) (f : α → β) :
    Extends (d >>= fun a => pure (f a)) (e >>= fun a => pure (f a)) :=
  read.bind fun a => extends_pure (f a)

theorem Extends.fails_on_part {d : Decoder α} (steady : Extends d d) {bytes : List UInt8} {a : α}
    (read : d.run bytes = .ok (a, [])) {n : Nat} (part : n < bytes.length) :
    ∃ fault, d.run (bytes.take n) = .error fault := by
  cases early : d.run (bytes.take n) with
  | error fault => exact ⟨fault, rfl⟩
  | ok p =>
    have whole := steady _ p.1 p.2 (bytes.drop n) early
    rw [List.take_append_drop, read] at whole
    have left : p.2 ++ bytes.drop n = [] := (congrArg Prod.snd (Except.ok.inj whole)).symm
    have := congrArg List.length (List.append_eq_nil_iff.1 left).2
    rw [List.length_drop, List.length_nil] at this
    omega

/-- A codec reads back what it writes, which is at least a byte, and pays no heed to later bytes. -/
class Lawful (c : Codec α) : Prop where
  reads : ∀ a, Reads c.decode (c.encode a) a
  steady : Extends c.decode c.decode
  nonempty : ∀ a, c.encode a ≠ []

namespace Codec

theorem reads_takeBytes {n : Nat} {b : List UInt8} (size : b.length = n) :
    Reads (takeBytes n) b b := by
  subst size
  intro _ rest
  change (if b.length ≤ (b ++ rest).length then _ else _) = _
  rw [if_pos (by simp), List.take_left, List.drop_left]

theorem extends_takeBytes (n : Nat) : Extends (takeBytes n) (takeBytes n) := by
  intro bytes a rest more ran
  change (if n ≤ bytes.length then _ else _) = _ at ran
  change (if n ≤ (bytes ++ more).length then _ else _) = _
  split at ran
  · next enough =>
    cases ran
    rw [if_pos (by rw [List.length_append]; omega), List.take_append_of_le_length enough,
      List.drop_append_of_le_length enough]
  · exact nomatch ran

theorem extends_byte : Extends byte byte := by
  intro bytes a rest more ran
  cases bytes with
  | nil => exact nomatch ran
  | cons b bytes =>
    cases ran
    rfl

theorem reads_byte (b : UInt8) : Reads byte [b] b :=
  fun _ _ => rfl

instance : Lawful word64 where
  reads w := by
    have read :=
      (reads_takeBytes (n := 8) (b := bytesOfWord w) (by simp [bytesOfWord])).map littleEndian
    rwa [littleEndian_bytesOfWord] at read
  steady := (extends_takeBytes 8).map _
  nonempty w := by simp [word64, bytesOfWord]

instance : Lawful word32 where
  reads w := by
    have read := (reads_takeBytes (n := 4) (b := (bytesOfWord w.toUInt64).take 4)
      (by simp [bytesOfWord])).map fun bytes => (littleEndian bytes).toUInt32
    rwa [littleEndian_take_bytesOfWord] at read
  steady := (extends_takeBytes 4).map _
  nonempty w := by simp [word32, bytesOfWord]

instance : Lawful signed64 where
  reads n := by
    have read := (Lawful.reads (c := word64) n.toUInt64).map UInt64.toInt64
    rwa [Int64.toInt64_toUInt64] at read
  steady := (Lawful.steady (c := word64)).map _
  nonempty n := Lawful.nonempty (c := word64) _

instance : Lawful bool where
  reads b := by
    cases b with
    | false => exact (reads_byte 0).bind (reads_pure false)
    | true => exact (reads_byte 1).bind (reads_pure true)
  steady := by
    refine extends_byte.bind fun b => ?_
    split
    · exact extends_pure _
    · split
      · exact extends_pure _
      · exact extends_throw _ _
  nonempty _ := by simp [bool]

theorem reads_variant {n variants : Nat} (known : n < variants := by decide)
    (few : variants < 2 ^ 32 := by decide) : Reads (variant variants) (tag n) n := by
  have value : (UInt32.ofNat n).toNat = n := Nat.mod_eq_of_lt (by omega)
  have read := Lawful.reads (c := word32) (UInt32.ofNat n)
  exact read.ends (by rw [value, if_pos known])

theorem extends_variant (variants : Nat) : Extends (variant variants) (variant variants) := by
  refine (Lawful.steady (c := word32)).bind fun w => ?_
  dsimp only
  split
  · exact extends_pure _
  · exact extends_throw _ _

theorem tag_ne_nil (n : Nat) : tag n ≠ [] :=
  Lawful.nonempty (c := word32) _

theorem lawful_choice [BEq α] [LawfulBEq α] {values : List α} (complete : ∀ a, a ∈ values)
    (few : values.length < 2 ^ 32) : Lawful (choice values) where
  reads a := by
    have below : values.idxOf a < values.length := List.idxOf_lt_length_of_mem (complete a)
    have value : (UInt32.ofNat (values.idxOf a)).toNat = values.idxOf a :=
      Nat.mod_eq_of_lt (by omega)
    have found : values[values.idxOf a]? = some a := by
      rw [List.getElem?_eq_getElem below, List.getElem_idxOf]
    have read := Lawful.reads (c := word32) (UInt32.ofNat (values.idxOf a))
    exact read.ends (by simp only [value, found])
  steady := by
    refine (Lawful.steady (c := word32)).bind fun w => ?_
    dsimp only
    split
    · exact extends_pure _
    · exact extends_throw _ _
  nonempty a := tag_ne_nil _

theorem reads_length {k : Nat} {f : Nat → Decoder α} {bytes : List UInt8} {a : α}
    (few : k ≤ bytes.length) (read : Reads (f k) bytes a) :
    Reads (word64.decode >>= fun n => f n.toNat) (word64.encode (UInt64.ofNat k) ++ bytes) a := by
  intro short
  rw [List.length_append] at short
  have value : (UInt64.ofNat k).toNat = k := Nat.mod_eq_of_lt (by omega)
  have counted : Reads (f (UInt64.ofNat k).toNat) bytes a := by rwa [value]
  exact (Lawful.reads (c := word64) (UInt64.ofNat k)).bind (f := fun n => f n.toNat) counted
    (by rwa [List.length_append])

instance : Lawful text where
  reads s := by
    refine reads_length (f := fun n => do
      let bytes ← takeBytes n
      match decodeText bytes with
      | .ok s => return s
      | .error f => throw (.badText f)) (Nat.le_refl _) ?_
    exact (reads_takeBytes rfl).ends (by rw [decodeText_encodeText])
  steady := by
    refine (Lawful.steady (c := word64)).bind fun n => (extends_takeBytes _).bind fun bytes => ?_
    split
    · exact extends_pure _
    · exact extends_throw _ _
  nonempty s := List.append_ne_nil_of_left_ne_nil (Lawful.nonempty (c := word64) _) _

theorem reads_repeated {item : Decoder α} {write : α → List UInt8} {as : List α}
    (each : ∀ a ∈ as, Reads item (write a) a) :
    Reads (repeated item as.length) (as.flatMap write) as := by
  induction as with
  | nil => exact reads_pure []
  | cons a as ih =>
    have rest := ih fun b mem => each b (.tail _ mem)
    exact (each a (.head _)).bind (rest.map (a :: ·))

theorem length_le_flatMap {write : α → List UInt8} {as : List α} (nonempty : ∀ a, write a ≠ []) :
    as.length ≤ (as.flatMap write).length := by
  induction as with
  | nil => exact Nat.le_refl _
  | cons a as ih =>
    have := List.length_pos_iff.2 (nonempty a)
    rw [List.flatMap_cons, List.length_append, List.length_cons]
    omega

theorem reads_list {item : Decoder α} {write : α → List UInt8} {as : List α}
    (nonempty : ∀ a, write a ≠ []) (each : ∀ a ∈ as, Reads item (write a) a) :
    Reads (decodeList item) (encodeList write as) as :=
  reads_length (length_le_flatMap nonempty) (reads_repeated each)

theorem extends_repeated {item other : Decoder α} (steady : Extends item other) (n : Nat) :
    Extends (repeated item n) (repeated other n) := by
  induction n with
  | zero => exact extends_pure []
  | succ n ih => exact steady.bind fun a => ih.map (a :: ·)

theorem extends_decodeList {item other : Decoder α} (steady : Extends item other) :
    Extends (decodeList item) (decodeList other) :=
  (Lawful.steady (c := word64)).bind fun n => extends_repeated steady n.toNat

theorem encodeList_ne_nil (write : α → List UInt8) (as : List α) : encodeList write as ≠ [] :=
  List.append_ne_nil_of_left_ne_nil (Lawful.nonempty (c := word64) _) _

theorem reads_option {item : Decoder α} {write : α → List UInt8} {a : Option α}
    (each : ∀ b, a = some b → Reads item (write b) b) :
    Reads (decodeOption item) (encodeOption write a) a := by
  cases a with
  | none => exact (reads_byte 0).bind (reads_pure none)
  | some b => exact (reads_byte 1).bind ((each b rfl).map some)

theorem extends_decodeOption {item other : Decoder α} (steady : Extends item other) :
    Extends (decodeOption item) (decodeOption other) := by
  refine extends_byte.bind fun b => ?_
  split
  · exact extends_pure _
  · split
    · exact steady.map some
    · exact extends_throw _ _

section Compound

variable (c : Codec α) [Lawful c]

instance : Lawful (list c) where
  reads _ := reads_list (Lawful.nonempty (c := c)) fun a _ => Lawful.reads a
  steady := extends_decodeList Lawful.steady
  nonempty := encodeList_ne_nil _

instance : Lawful (option c) where
  reads _ := reads_option fun a _ => Lawful.reads a
  steady := extends_decodeOption Lawful.steady
  nonempty a := by cases a <;> exact List.cons_ne_nil _ _

instance (d : Codec β) [Lawful d] : Lawful (pair c d) where
  reads := fun (a, b) => (Lawful.reads (c := c) a).bind ((Lawful.reads (c := d) b).map (a, ·))
  steady := (Lawful.steady (c := c)).bind fun a => (Lawful.steady (c := d)).map (a, ·)
  nonempty _ := List.append_ne_nil_of_left_ne_nil (Lawful.nonempty (c := c) _) _

theorem lawful_imap {f : α → β} {g : β → α} (inverse : ∀ b, f (g b) = b) : Lawful (c.imap f g) where
  reads b := by
    have read := (Lawful.reads (c := c) (g b)).map f
    rwa [inverse] at read
  steady := (Lawful.steady (c := c)).map f
  nonempty b := Lawful.nonempty (c := c) (g b)

theorem reads_reservedList {width : Nat} {as : List α} (fits : room width as.length < 2 ^ 47) :
    Reads (reservedList width c).decode ((reservedList width c).encode as) as := by
  refine reads_length (f := fun n => if room width n < 0x800000000000 then repeated c.decode n
    else throw (.noRoom (room width n))) (length_le_flatMap (Lawful.nonempty (c := c))) ?_
  rw [if_pos (show room width as.length < 0x800000000000 from fits)]
  exact reads_repeated fun a _ => Lawful.reads a

theorem extends_reservedList (width : Nat) :
    Extends (reservedList width c).decode (reservedList width c).decode := by
  refine (Lawful.steady (c := word64)).bind fun n => ?_
  dsimp only
  split
  · exact extends_repeated Lawful.steady n.toNat
  · exact extends_throw _ _

end Compound

end Codec

end CardGame.Snapshot
