import CardGame.Zone.Basic

/-!
The board: a fixed row of slots, each of which holds at most one card.
-/

namespace CardGame

structure Board where
  slots : List (Option CardId)
deriving DecidableEq, Repr, Inhabited

namespace Board

def empty (size : Nat) : Board :=
  ⟨List.replicate size none⟩

def size (b : Board) : Nat :=
  b.slots.length

def get? (b : Board) (slot : Nat) : Option CardId :=
  (b.slots[slot]?).join

def isFree (b : Board) (slot : Nat) : Bool :=
  b.slots[slot]? == some none

def freeSlots (b : Board) : List Nat :=
  (List.range b.size).filter b.isFree

def firstFree? (b : Board) : Option Nat :=
  b.slots.findIdx? Option.isNone

def slotOf? (b : Board) (c : CardId) : Option Nat :=
  b.slots.findIdx? (· == some c)

def contains (b : Board) (c : CardId) : Bool :=
  (b.slotOf? c).isSome

/-- Put a card into a slot; a slot that is not free stays as it is. -/
def place (b : Board) (slot : Nat) (c : CardId) : Board :=
  if b.isFree slot then ⟨b.slots.set slot (some c)⟩ else b

def remove (b : Board) (c : CardId) : Board :=
  match b.slotOf? c with
  | some slot => ⟨b.slots.set slot none⟩
  | none => b

def cards (b : Board) : List CardId :=
  b.slots.filterMap id

theorem size_place (b : Board) (slot : Nat) (c : CardId) : (b.place slot c).size = b.size := by
  simp only [place, size]
  split <;> simp

theorem size_remove (b : Board) (c : CardId) : (b.remove c).size = b.size := by
  simp only [remove, size]
  split <;> simp

theorem get?_place_self (b : Board) {slot : Nat} (c : CardId) (free : b.isFree slot) :
    (b.place slot c).get? slot = some c := by
  have inRange : slot < b.slots.length := by
    by_cases h : slot < b.slots.length
    · exact h
    · simp [isFree, Nat.le_of_not_lt h] at free
  simp [place, free, get?, inRange]

theorem isFree_of_firstFree? (b : Board) {slot : Nat} (h : b.firstFree? = some slot) :
    b.isFree slot := by
  obtain ⟨inRange, isNone, -⟩ := List.findIdx?_eq_some_iff_getElem.1 h
  simp [isFree, inRange, Option.isNone_iff_eq_none.1 isNone]

end Board

end CardGame
