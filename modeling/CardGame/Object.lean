/-!
What a rule can point at: a player, named by the seat, or a card, named by its place in the game's
arena of cards.
-/

namespace CardGame

/-- A player, by seat from 0. -/
structure PlayerId where
  seat : Nat
deriving DecidableEq, Repr, Inhabited

namespace PlayerId

/-- The seat that follows this one at a table of the given size. There are 256 seat numbers; beyond
the last of them counting starts again at 0. -/
def next (p : PlayerId) (seats : Nat) : PlayerId :=
  ⟨(p.seat + 1) % max seats 1 % 256⟩

/-- All seats of a table in turn order, never more than 256. -/
def all (seats : Nat) : List PlayerId :=
  (List.range (min seats 256)).map PlayerId.mk

def text (p : PlayerId) : String :=
  s!"Player {p.seat}"

theorem next_seat_lt (p : PlayerId) {seats : Nat} (some_seat : 0 < seats) :
    (p.next seats).seat < seats := by
  have : max seats 1 = seats := by omega
  simp only [next, this]
  exact Nat.lt_of_le_of_lt (Nat.mod_le _ _) (Nat.mod_lt _ some_seat)

theorem next_seat (p : PlayerId) {seats : Nat} (some_seat : 0 < seats) (few : seats ≤ 256) :
    (p.next seats).seat = (p.seat + 1) % seats := by
  have : max seats 1 = seats := by omega
  have below : (p.seat + 1) % seats < seats := Nat.mod_lt _ some_seat
  simp only [next, this]
  exact Nat.mod_eq_of_lt (by omega)

end PlayerId

/-- A card in a game, by its place in the arena. -/
structure CardId where
  index : Nat
deriving DecidableEq, Repr, Inhabited

def CardId.text (c : CardId) : String :=
  s!"Card({c.index})"

inductive ObjectRef where
  | player (p : PlayerId)
  | card (c : CardId)
deriving DecidableEq, Repr

namespace ObjectRef

def card? : ObjectRef → Option CardId
  | card c => some c
  | player _ => none

def player? : ObjectRef → Option PlayerId
  | player p => some p
  | card _ => none

def text : ObjectRef → String
  | player p => p.text
  | card c => c.text

end ObjectRef

end CardGame
