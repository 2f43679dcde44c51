import CardGame.Object

/-!
Where cards live. Every player has a deck, a hand and a pile, whose cards are ordered, and a board
with a fixed number of slots. The stack is shared, and a card being cast is on it until it resolves.
-/

namespace CardGame

inductive Zone where
  | deck
  | hand
  | board
  | pile
  | stack
deriving DecidableEq, Repr

namespace Zone

def all : List Zone :=
  [deck, hand, board, pile, stack]

/-- The order in which a player's zones are searched. -/
def searchOrder : List Zone :=
  [board, hand, pile, deck, stack]

def word : Zone → String
  | deck => "deck"
  | hand => "hand"
  | board => "board"
  | pile => "pile"
  | stack => "stack"

def ofWord? (w : String) : Option Zone :=
  all.find? (·.word == w)

theorem ofWord?_word (z : Zone) : ofWord? z.word = some z := by
  cases z <;> decide

theorem mem_searchOrder (z : Zone) : z ∈ searchOrder := by
  cases z <;> decide

end Zone

inductive Position where
  | top
  | bottom
  /-- A place from the top of a pile, or a slot of a board. -/
  | index (i : Nat)
deriving DecidableEq, Repr

end CardGame
