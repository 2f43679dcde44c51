import CardGame.Random.KeyStream
import CardGame.Random.KeyedHash

/-!
Random indices and shuffles. An index below a bound is drawn by multiplying a random word with the
bound and keeping the high part; words whose low part lies beyond the largest multiple that fits are
drawn again, which makes every index equally likely. A shuffle draws one index for each place from
the last one down, and applies the exchanges that they name.
-/

namespace CardGame.Random

abbrev Generator := KeyStream

class WordSource (σ : Type) where
  next32 : σ → UInt32 × σ

instance : WordSource Generator :=
  ⟨KeyStream.next32⟩

/-- The number of words an index may reject before it falls back to the lowest one. Each is rejected
with probability below one half, so the fallback is out of reach in practice. -/
def maxRejections : Nat := 1024

/-- The largest low part that a word may have for a bound of the given width in bits: the bound
shifted up to the highest bit, less one. -/
def acceptance (width bound : Nat) : Nat :=
  bound <<< (width - 1 - bound.log2) - 1

/-- The index below a bound that a word stands for; none when another word is to be drawn. -/
def indexOfWord? (width bound word : Nat) : Option Nat :=
  let product := word * bound
  if product % (1 <<< width) ≤ acceptance width bound then
    some (product >>> width)
  else
    none

section

variable {σ : Type} [WordSource σ]

def word32 (s : σ) : Nat × σ :=
  let (word, s) := WordSource.next32 s
  (word.toNat, s)

/-- The next two words as one, the first of them low. -/
def word64 (s : σ) : Nat × σ :=
  let (low, s) := WordSource.next32 s
  let (high, s) := WordSource.next32 s
  ((low.toUInt64 ||| (high.toUInt64 <<< 32)).toNat, s)

def indexBelow (width bound : Nat) (next : σ → Nat × σ) : (attempts : Nat) → σ → Nat × σ
  | 0, s => (0, s)
  | attempts + 1, s =>
    let (word, s) := next s
    match indexOfWord? width bound word with
    | some i => (i, s)
    | none => indexBelow width bound next attempts s

def indexUpTo (last : Nat) (s : σ) : Nat × σ :=
  indexBelow 64 (last + 1) word64 maxRejections s

def shortIndexUpTo (last : Nat) (s : σ) : Nat × σ :=
  if last + 1 < 0x100000000 then
    indexBelow 32 (last + 1) word32 maxRejections s
  else
    indexBelow 64 (last + 1) word64 maxRejections s

/-- One index for each place from n - 1 down to 1, each at most its place. -/
def drawIndices (index : Nat → σ → Nat × σ) : Nat → σ → List Nat × σ
  | 0, s => ([], s)
  | 1, s => ([], s)
  | n + 2, s =>
    let (j, s) := index (n + 1) s
    let (js, s) := drawIndices index (n + 1) s
    (j :: js, s)

end

/-- Exchange the entry at each place, from a given one downwards, with the one at its index. -/
def exchange {α : Type} (entries : Array α) : (place : Nat) → List Nat → Array α
  | 0, _ => entries
  | _, [] => entries
  | place + 1, j :: js => exchange (entries.swapIfInBounds (place + 1) j) place js

/-- The order that a sequence of indices, one for each place from the last down, makes. -/
def arrange {α : Type} (entries : List α) (indices : List Nat) : List α :=
  (exchange entries.toArray (entries.length - 1) indices).toList

namespace Generator

variable {α : Type}

def range? (low high : Nat) (g : Generator) : Option (Nat × Generator) :=
  if low < high then
    let (i, g) := indexBelow 64 (high - low) word64 maxRejections g
    some (low + i, g)
  else
    none

def shufflePile (entries : List α) (g : Generator) : List α × Generator :=
  let (indices, g) := drawIndices indexUpTo entries.length g
  (arrange entries indices, g)

def shuffle (entries : List α) (g : Generator) : List α × Generator :=
  let (indices, g) := drawIndices shortIndexUpTo entries.length g
  (arrange entries indices, g)

/-- An independent stream derived from this one's seed and a label. -/
def forContext (g : Generator) (label : String) : Generator :=
  .ofSeed (keyedHash (bytesOfWord g.seed ++ label.toUTF8.toList ++ [0xff]))

end Generator

theorem swapIfInBounds_perm {α : Type} (entries : Array α) (i j : Nat) :
    (entries.swapIfInBounds i j).Perm entries := by
  rw [Array.swapIfInBounds_def]
  split
  · split
    · exact Array.swap_perm _ _
    · exact .refl _
  · exact .refl _

theorem exchange_perm {α : Type} (entries : Array α) (place : Nat) (indices : List Nat) :
    (exchange entries place indices).Perm entries := by
  induction place generalizing entries indices with
  | zero => simp [exchange]
  | succ place ih =>
    cases indices with
    | nil => simp [exchange]
    | cons j js => exact (ih _ js).trans (swapIfInBounds_perm entries _ j)

theorem arrange_perm {α : Type} (entries : List α) (indices : List Nat) :
    (arrange entries indices).Perm entries := by
  simpa [arrange] using Array.perm_iff_toList_perm.1 (exchange_perm entries.toArray _ indices)

end CardGame.Random
