import CardGame.Amount

/-!
The numbers a format may tune. Every rule that involves a limit reads it from here.
-/

namespace CardGame

/-- Tunable numbers of a game; the defaults are those of the standard format. -/
structure RulesConfig where
  boardSize : UInt64 := 5
  startCards : UInt64 := 3
  startLife : Amount := 20
  sourcesPerTurn : UInt32 := 1
  /-- How often an answer out of range is asked for again before it counts as a skip. -/
  maxPromptRetries : UInt32 := 3
  /-- Emissions that may be nested before further events are dropped. -/
  maxEventDepth : UInt64 := 64
  /-- Actions one player may take in a row before a pass is forced. -/
  maxActionsPerPhase : UInt64 := 256
  /-- Turns after which the game stops as a draw. -/
  maxTurns : Option UInt32 := none
  seed : UInt64 := 0
deriving DecidableEq, Repr

end CardGame
