import CardGame.Event.Bus
import CardGame.Play.Choice
import CardGame.Play.Instance
import CardGame.Play.Player
import CardGame.Play.PriorityStack
import CardGame.Play.Turn
import CardGame.Seats

/-!
The state of a game, the errors of its operations and the chronicle of what happened. Operations
that may fail keep the state as they left it; the chronicle records events, calls of observers,
questions with their replies, and notices, in order.
-/

namespace CardGame

inductive TransitionFault where
  | alreadyOnBoard
  | slotOccupied
  | boardFull
deriving DecidableEq, Repr

def TransitionFault.reason : TransitionFault → String
  | alreadyOnBoard => "already on the board"
  | slotOccupied => "slot occupied"
  | boardFull => "board is full"

inductive PlayFault where
  | unknownOwner
  | notInHand
  | badTiming
  | fieldTaken
  | boardFull
  | notOnBoard
  | noSuchAbility
  | sourceLimit
deriving DecidableEq, Repr

def PlayFault.reason : PlayFault → String
  | unknownOwner => "unknown owner"
  | notInHand => "not in your hand"
  | badTiming => "not your play phase with an empty stack"
  | fieldTaken => "field is taken"
  | boardFull => "board is full"
  | notOnBoard => "not on your board"
  | noSuchAbility => "no such ability"
  | sourceLimit => "source limit reached"

inductive EngineError where
  | illegalTransition (card : CardId) (origin goal : Zone) (fault : TransitionFault)
  | insufficientResources (card : CardId)
  | notPlayable (card : CardId) (fault : PlayFault)
  | playerCount (count : Nat)
  | notYourPriority (player : PlayerId)
  | unknownCard (card : CardId)
deriving DecidableEq, Repr

namespace EngineError

def message : EngineError → String
  | illegalTransition card origin goal fault =>
    card.text ++ " cannot move from " ++ origin.word ++ " to " ++ goal.word ++ ": " ++ fault.reason
  | insufficientResources card => "cannot pay the costs of " ++ card.text
  | notPlayable card fault => card.text ++ " cannot be played now: " ++ fault.reason
  | playerCount count => s!"a game needs 1 to 255 players, got {count}"
  | notYourPriority player => player.text ++ " does not hold priority"
  | unknownCard card => "unknown card " ++ card.text

/-- Whether the request was at fault and not the state of the game. -/
def isRejection : EngineError → Bool
  | notPlayable _ _ => true
  | notYourPriority _ => true
  | _ => false

end EngineError

inductive Notice where
  | answerOutOfRange (p : PlayerId) (index options : Nat)
  | eventDropped (depth : Nat) (kind : EventKind) (subject : ObjectRef)
  | noFreeSlot (c : CardId)
  | openingDrawFailed (p : PlayerId) (e : EngineError)
  | phaseFailed (phase : Phase) (p : PlayerId) (e : EngineError)
  | passForced (p : PlayerId) (actions : Nat)
  | resolutionFailed (e : EngineError)
  | gameStarted (players : Nat) (first : PlayerId)
  | turnStarted (number : Nat) (p : PlayerId)
  | turnLimitReached (number : Nat)
  | gameOver (turns : Nat) (result : GameResult)
deriving DecidableEq, Repr

namespace Notice

def isInformation : Notice → Bool
  | gameStarted _ _ => true
  | turnStarted _ _ => true
  | turnLimitReached _ => true
  | gameOver _ _ => true
  | _ => false

def message : Notice → String
  | answerOutOfRange p index options => p.text ++ s!" chose option {index} of {options}"
  | eventDropped depth kind subject =>
    s!"event depth {depth} reached, dropping " ++ kind.name ++ " " ++ subject.text
  | noFreeSlot c => "no free slot for " ++ c.text ++ ", it goes to the pile"
  | openingDrawFailed p e => "opening draw for " ++ p.text ++ " failed: " ++ e.message
  | phaseFailed phase p e => phase.name ++ " phase of " ++ p.text ++ ": " ++ e.message
  | passForced p actions => p.text ++ s!" took {actions} actions, forcing a pass"
  | resolutionFailed e => "resolution failed: " ++ e.message
  | gameStarted players first => s!"game start: {players} players, " ++ first.text ++ " begins"
  | turnStarted number p => s!"turn {number}: " ++ p.text
  | turnLimitReached number => s!"turn limit {number} reached"
  | gameOver turns result => s!"game over after {turns} turns: " ++ result.text

end Notice

inductive Entry where
  | emitted (e : GameEvent)
  | handled (h : HandlerId) (e : GameEvent)
  | asked (p : PlayerId) (prompt : Prompt) (reply : Reply)
  | revealed (p : PlayerId) (cards : List CardId)
  | noticed (n : Notice)
deriving DecidableEq, Repr

structure Game where
  config : RulesConfig
  players : Seats Player
  choosers : Seats Chooser
  /-- Every card of the game; a card's name is its place here. -/
  cards : Array CardInstance
  stack : PriorityStack
  turn : TurnState
  /-- The source of the use that is resolving, from which events come. -/
  resolving : Option CardId
  observers : EventBus
  random : Random.Generator
  /-- How many emissions are nested at the moment. -/
  eventDepth : Nat
  nextUse : Nat
  chronicle : Array Entry

namespace Game

/-- The state of a player. A seat that does not exist is vacant. -/
def player (g : Game) (p : PlayerId) : Player :=
  (g.players.get? p).getD .vacant

def card? (g : Game) (c : CardId) : Option CardInstance :=
  g.cards[c.index]?

def modifyPlayer (g : Game) (p : PlayerId) (f : Player → Player) : Game :=
  { g with players := g.players.modify p f }

def modifyCard (g : Game) (c : CardId) (f : CardInstance → CardInstance) : Game :=
  { g with cards := g.cards.modify c.index f }

def modifyStack (g : Game) (f : PriorityStack → PriorityStack) : Game :=
  { g with stack := f g.stack }

def record (g : Game) (e : Entry) : Game :=
  { g with chronicle := g.chronicle.push e }

def remaining (g : Game) : List PlayerId :=
  (g.players.toList.filter fun (_, p) => !p.lost).map (·.1)

/-- Whether the game is decided: one player alone plays until losing, others until one is left. -/
def isOver (g : Game) : Bool :=
  if g.players.count = 1 then g.remaining.isEmpty else g.remaining.length ≤ 1

def withoutChronicle (g : Game) : Game :=
  { g with chronicle := #[] }

end Game

abbrev Step := StateM Game

/-- An operation on a game that may fail. The game stays as it was left. -/
abbrev Act := ExceptT EngineError Step

namespace Act

variable {α : Type}

def card (c : CardId) : Act CardInstance := do
  match (← getThe Game).card? c with
  | some i => return i
  | none => throw (.unknownCard c)

def changeCard (c : CardId) (f : CardInstance → CardInstance) : Act Unit := do
  let _ ← card c
  modifyThe Game (·.modifyCard c f)

/-- How an operation ends, as a value: it does not fail, and the game stays as it was left. -/
def outcome (act : Act α) : Step (Except EngineError α) :=
  act.run

def attempt (act : Act α) : Act (Except EngineError α) :=
  ExceptT.lift act.run

def ofOutcome : Except EngineError α → Act α
  | .ok a => return a
  | .error e => throw e

def require (condition : Bool) (e : EngineError) : Act Unit :=
  if condition then pure () else throw e

end Act

def Step.notice (n : Notice) : Step Unit :=
  modifyThe Game (·.record (.noticed n))

end CardGame
