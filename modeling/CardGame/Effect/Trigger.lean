import CardGame.Match.Text
import CardGame.Event.Basic

/-!
Triggers: the event that a triggered ability waits for, and a condition on the event's subject.
-/

namespace CardGame

inductive PlayerAction where
  | sacrifice (m : CardMatch)
  | draw
deriving DecidableEq

inductive CardAction where
  | entersBoard
  | leavesBoard
deriving DecidableEq, Repr

inductive Condition where
  | yourTurn
  | notYourTurn
  | player (who : PlayerMatch) (action : PlayerAction)
  | card (which : CardMatch) (action : CardAction)
  | numerical (stat : Stat) (comparison : Comparison)
deriving DecidableEq

inductive Trigger where
  | play (m : CardMatch)
  | gainLife (m : PlayerMatch)
  | loseLife (m : PlayerMatch)
  | dealtDamage (m : CardMatch)
  | condition (c : Condition)
deriving DecidableEq

namespace Condition

/-- The kind of event at which a condition is checked: turns at their start, actions when they
happen. A comparison has none, it is checked at every event about the source card. -/
def eventKind? : Condition → Option EventKind
  | yourTurn | notYourTurn => some .startPhase
  | player _ (.sacrifice _) => some .sacrifice
  | player _ .draw => some .draw
  | card _ .entersBoard => some .enterBoard
  | card _ .leavesBoard => some .leaveBoard
  | numerical _ _ => none

def text (self : String) : Condition → String
  | yourTurn => "it's your turn"
  | notYourTurn => "it's not your turn"
  | player who (.sacrifice m) => PlayerMatch.text who ++ " sacrifices " ++ CardMatch.text self m
  | player who .draw => PlayerMatch.text who ++ " draws a card"
  | card which .entersBoard => CardMatch.text self which ++ " is put on the board"
  | card which .leavesBoard => CardMatch.text self which ++ " leaves the board"
  | numerical stat comparison => stat.word ++ " is " ++ comparison.text self

end Condition

namespace Trigger

def eventKind? : Trigger → Option EventKind
  | play _ => some .play
  | gainLife _ => some .gainLife
  | loseLife _ => some .loseLife
  | dealtDamage _ => some .damage
  | condition c => c.eventKind?

def text (self : String) (t : Trigger) : String :=
  "when " ++ match t with
    | play m => "you play " ++ CardMatch.text self m
    | gainLife m => PlayerMatch.text m ++ " gains life"
    | loseLife m => PlayerMatch.text m ++ " loses life"
    | dealtDamage m => CardMatch.text self m ++ " is dealt damage"
    | condition c => c.text self

end Trigger

end CardGame
