import CardGame.Object

/-!
The course of a game: the four phases of a turn, where a turn stands, and how a game ends.
-/

namespace CardGame

inductive Phase where
  | start
  | draw
  | play
  | finish
deriving DecidableEq, Repr

namespace Phase

def all : List Phase :=
  [start, draw, play, finish]

def name : Phase → String
  | start => "start"
  | draw => "draw"
  | play => "play"
  | finish => "end"

def ofName? (s : String) : Option Phase :=
  all.find? (·.name == s)

end Phase

structure TurnState where
  active : PlayerId
  phase : Phase
  /-- The number of the turn, from one once the first turn starts. -/
  number : Nat
  sourcesPlayed : Nat
deriving DecidableEq, Repr

def TurnState.initial : TurnState :=
  ⟨⟨0⟩, .start, 0, 0⟩

inductive GameResult where
  | winner (p : PlayerId)
  | winners (ps : List PlayerId)
  | draw
deriving DecidableEq, Repr

namespace GameResult

def isWinner : GameResult → PlayerId → Bool
  | winner q, p => q == p
  | winners qs, p => qs.contains p
  | draw, _ => false

def winnerList : GameResult → List PlayerId
  | winner p => [p]
  | winners ps => ps
  | draw => []

def playerText (p : PlayerId) : String :=
  s!"PlayerId({p.seat})"

def text : GameResult → String
  | winner p => "Winner(" ++ playerText p ++ ")"
  | winners ps => "Winners([" ++ ", ".intercalate (ps.map playerText) ++ "])"
  | draw => "Draw"

theorem isWinner_iff_mem (r : GameResult) (p : PlayerId) : r.isWinner p ↔ p ∈ r.winnerList := by
  cases r with
  | winner q =>
    simp only [isWinner, winnerList, beq_iff_eq, List.mem_singleton]
    exact eq_comm
  | winners qs => simp [isWinner, winnerList]
  | draw => simp [isWinner, winnerList]

end GameResult

end CardGame
