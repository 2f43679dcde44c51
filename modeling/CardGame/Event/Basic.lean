import CardGame.Object

/-!
Events: everything that happens in a game and that an ability or an observer may react to. An event
has a kind, a subject and, while an ability resolves, the card that ability comes from.
-/

namespace CardGame

inductive EventKind where
  /-- No event is being processed. -/
  | none
  /-- Stands for every event when observers are registered; never emitted. -/
  | all
  | startPhase
  | drawPhase
  | playPhase
  | endPhase
  | draw
  | play
  | enterBoard
  | leaveBoard
  | destroy
  | sacrifice
  | target
  | activate
  | deactivate
  | attack
  | block
  | damage
  | playerDamage
  | heal
  | counter
  | discard
  | loseLife
  | gainLife
  | win
  | lose
deriving DecidableEq, Repr

namespace EventKind

def every : List EventKind :=
  [none, all, startPhase, drawPhase, playPhase, endPhase, draw, play, enterBoard, leaveBoard,
    destroy, sacrifice, target, activate, deactivate, attack, block, damage, playerDamage, heal,
    counter, discard, loseLife, gainLife, win, lose]

def name : EventKind → String
  | none => "none"
  | all => "all"
  | startPhase => "start-phase"
  | drawPhase => "draw-phase"
  | playPhase => "play-phase"
  | endPhase => "end-phase"
  | draw => "draw"
  | play => "play"
  | enterBoard => "enter-board"
  | leaveBoard => "leave-board"
  | destroy => "destroy"
  | sacrifice => "sacrifice"
  | target => "target"
  | activate => "activate"
  | deactivate => "deactivate"
  | attack => "attack"
  | block => "block"
  | damage => "damage"
  | playerDamage => "player-damage"
  | heal => "heal"
  | counter => "counter"
  | discard => "discard"
  | loseLife => "lose-life"
  | gainLife => "gain-life"
  | win => "win"
  | lose => "lose"

def ofName? (s : String) : Option EventKind :=
  every.find? (·.name == s)

theorem ofName?_name (e : EventKind) : ofName? e.name = some e := by
  cases e <;> decide

end EventKind

structure GameEvent where
  kind : EventKind
  /-- The card whose ability was resolving. -/
  source : Option CardId
  /-- The player or card to whom it happened. -/
  subject : ObjectRef
deriving DecidableEq, Repr

def GameEvent.text (e : GameEvent) : String :=
  let happened := e.kind.name ++ " " ++ e.subject.text
  match e.source with
  | some c => happened ++ " from " ++ c.text
  | none => happened

end CardGame
