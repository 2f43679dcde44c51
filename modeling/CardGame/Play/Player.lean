import CardGame.Config
import CardGame.Play.Essence
import CardGame.Zone.Board
import CardGame.Zone.Pile

/-!
The state of a seat: life, zones, essence, turns to come, and whether the player has lost.
-/

namespace CardGame

structure Player where
  life : Amount
  deck : Pile
  hand : Pile
  pile : Pile
  board : Board
  essence : EssencePool
  /-- Turns the player takes after the current one. -/
  extraTurns : Nat
  lost : Bool
deriving DecidableEq

namespace Player

def maxExtraTurns : Nat := 4294967295

def initial (config : RulesConfig) : Player :=
  ⟨config.startLife, .empty, .empty, .empty, .empty config.boardSize.toNat, [], 0, false⟩

/-- What stands for a seat that does not exist: no cards, no room, and out of the game. -/
def vacant : Player :=
  ⟨0, .empty, .empty, .empty, .empty 0, [], 0, true⟩

/-- The cards of an ordered zone; the board and the stack are none. -/
def pileOf? (p : Player) : Zone → Option Pile
  | .deck => some p.deck
  | .hand => some p.hand
  | .pile => some p.pile
  | .board => none
  | .stack => none

def modifyPile (p : Player) (z : Zone) (f : Pile → Pile) : Player :=
  match z with
  | .deck => { p with deck := f p.deck }
  | .hand => { p with hand := f p.hand }
  | .pile => { p with pile := f p.pile }
  | .board => p
  | .stack => p

/-- More turns in store; a number that is negative or out of range counts as none. -/
def addExtraTurns (p : Player) (n : Amount) : Player :=
  let turns := if n.times ≤ maxExtraTurns then n.times else 0
  { p with extraTurns := min (p.extraTurns + turns) maxExtraTurns }

theorem pileOf?_modifyPile (p : Player) (z : Zone) (f : Pile → Pile) :
    (p.modifyPile z f).pileOf? z = (p.pileOf? z).map f := by
  cases z <;> rfl

theorem pileOf?_modifyPile_of_ne (p : Player) {y z : Zone} (h : y ≠ z) (f : Pile → Pile) :
    (p.modifyPile z f).pileOf? y = p.pileOf? y := by
  cases y <;> cases z <;> first | rfl | exact absurd rfl h

end Player

end CardGame
