import CardGame.Zone.Basic
import CardGame.Random.Generator

/-!
Ordered zones: deck, hand and pile. The first card is the top one.
-/

namespace CardGame

/-- Cards in order, the top one first. -/
structure Pile where
  cards : List CardId
deriving DecidableEq, Repr, Inhabited

namespace Pile

def empty : Pile :=
  ⟨[]⟩

def size (p : Pile) : Nat :=
  p.cards.length

def top? (p : Pile) : Option CardId :=
  p.cards.head?

def peek (p : Pile) (n : Nat) : List CardId :=
  p.cards.take n

def pop (p : Pile) : Option CardId × Pile :=
  (p.cards.head?, ⟨p.cards.tail⟩)

/-- Put a card at a position; an index beyond the end is the bottom. -/
def insert (p : Pile) (c : CardId) : Position → Pile
  | .top => ⟨c :: p.cards⟩
  | .bottom => ⟨p.cards ++ [c]⟩
  | .index i => ⟨p.cards.take i ++ c :: p.cards.drop i⟩

def indexOf? (p : Pile) (c : CardId) : Option Nat :=
  p.cards.findIdx? (· == c)

def contains (p : Pile) (c : CardId) : Bool :=
  p.cards.contains c

def remove (p : Pile) (c : CardId) : Pile :=
  ⟨p.cards.erase c⟩

def shuffle (p : Pile) (g : Random.Generator) : Pile × Random.Generator :=
  let (cards, g) := g.shufflePile p.cards
  (⟨cards⟩, g)

theorem mem_insert (p : Pile) (c d : CardId) (position : Position) :
    d ∈ (p.insert c position).cards ↔ d = c ∨ d ∈ p.cards := by
  cases position with
  | top => simp [insert]
  | bottom => simp [insert, or_comm]
  | index i =>
    have split := List.take_append_drop i p.cards
    rw [show d ∈ p.cards ↔ d ∈ p.cards.take i ∨ d ∈ p.cards.drop i by
      rw [← List.mem_append, split]]
    simp only [insert, List.mem_append, List.mem_cons]
    exact or_left_comm

theorem remove_insert_top (p : Pile) (c : CardId) : (p.insert c .top).remove c = p := by
  simp [insert, remove]

theorem shuffle_perm (p : Pile) (g : Random.Generator) :
    (p.shuffle g).1.cards.Perm p.cards :=
  Random.arrange_perm _ _

end Pile

end CardGame
