import CardGame.Game.Action

/-!
The course of a game. A turn has four phases; in each, priority goes round until everyone passes
with an empty stack. The two loops, over actions and over turns, take a bound on their number of
rounds: they answer nothing when it is used up, and otherwise do not depend on it.
-/

namespace CardGame

namespace Act

def resolveTop : Act Bool := do
  let (top, stack) := (← getThe Game).stack.pop
  match top with
  | none => return false
  | some u =>
    modifyThe Game fun g => { g with stack := stack }
    resolveUse u
    return true

/-- What the start of a turn does: the pool is emptied and every card of the board activated. -/
def beginTurn (p : PlayerId) : Act Unit := do
  modifyThe Game (·.modifyPlayer p fun s => { s with essence := [] })
  ((← getThe Game).player p).board.cards.forM fun c =>
    changeCard c fun i => { i with activated := true }
  modifyThe Game fun g => { g with turn := { g.turn with sourcesPlayed := 0 } }

def enterPhase (phase : Phase) : Act Unit := do
  let active := (← getThe Game).turn.active
  modifyThe Game fun g => { g with turn := { g.turn with phase := phase } }
  modifyThe Game (·.modifyStack (·.resetPriority active))
  match phase with
  | .start =>
    beginTurn active
    Step.emit .startPhase (.player active)
  | .draw =>
    draw active 1
    Step.emit .drawPhase (.player active)
  | .play => Step.emit .playPhase (.player active)
  | .finish => Step.emit .endPhase (.player active)

end Act

namespace Step

/-- Let the holder of priority act, unless that player has lost or has taken too many actions in a
row. Whether an action was taken. -/
def actOrPass (actions : Nat) : Step Bool := do
  let g ← get
  let holder := g.stack.priority
  if (g.player holder).lost then
    return false
  else if actions < g.config.maxActionsPerPhase.toNat then
    takeAction holder
  else
    notice (.passForced holder actions)
    return false

def resolveRound : Step Unit := do
  match ← Act.outcome Act.resolveTop with
  | .ok _ => pure ()
  | .error e => notice (.resolutionFailed e)
  modify fun g => g.modifyStack (·.resetPriority g.turn.active)

/-- The holder of priority passes. True when the phase is over; a full round of passes otherwise
resolves the top use. -/
def passRound : Step Bool := do
  let (all, stack) := (← get).stack.pass
  modify fun g => { g with stack := stack }
  if !all then
    return false
  else
    let g ← get
    if g.stack.isEmpty || g.isOver then
      return true
    else
      resolveRound
      return false

/-- Hand priority round until the phase is over, given the actions that the holder has taken in a
row; nothing when the bound is used up. -/
def runPhaseWithin : (bound actions : Nat) → Step (Option Unit)
  | 0, _ => return none
  | bound + 1, actions => do
    if ← actOrPass actions then
      runPhaseWithin bound (actions + 1)
    else if ← passRound then
      return some ()
    else
      runPhaseWithin bound 0

def runPhase (bound : Nat) : Step (Option Unit) :=
  runPhaseWithin bound 0

def playPhase (bound : Nat) (p : PlayerId) (phase : Phase) : Step (Option Unit) := do
  match ← Act.outcome (Act.enterPhase phase) with
  | .ok () => pure ()
  | .error e => notice (.phaseFailed phase p e)
  runPhase bound

def playPhases (bound : Nat) (p : PlayerId) : List Phase → Step (Option Unit)
  | [] => return some ()
  | phase :: rest => do
    match ← playPhase bound p phase with
    | none => return none
    | some () => if (← get).isOver then return some () else playPhases bound p rest

def runTurn (bound : Nat) (p : PlayerId) : Step (Option Unit) := do
  modify fun g => { g with turn := { g.turn with active := p, number := g.turn.number + 1 } }
  notice (.turnStarted (← get).turn.number p)
  playPhases bound p Phase.all

def nextSeat (g : Game) (p : PlayerId) : PlayerId :=
  let seats := g.players.count
  (((List.range seats).map fun i => (⟨(p.seat + 1 + i) % seats⟩ : PlayerId)).find? fun q =>
    !(g.player q).lost).getD p

/-- The player whose turn follows a turn: the same one as long as there are extra turns in store,
else the next one that has not lost. -/
def afterTurn (p : PlayerId) : Step PlayerId := do
  let g ← get
  let s := g.player p
  if 0 < s.extraTurns ∧ !s.lost then
    modify (·.modifyPlayer p fun s => { s with extraTurns := s.extraTurns - 1 })
    return p
  else
    return nextSeat g p

def atTurnLimit (g : Game) : Bool :=
  g.config.maxTurns.any fun most => most.toNat ≤ g.turn.number

/-- Play turns from a player on until the game is decided or the limit of turns is reached; nothing
when the bound is used up. -/
def runTurns (phaseBound : Nat) : (bound : Nat) → PlayerId → Step (Option Unit)
  | 0, _ => return none
  | bound + 1, p => do
    let g ← get
    if g.isOver then
      return some ()
    else if atTurnLimit g then
      notice (.turnLimitReached g.turn.number)
      return some ()
    else
      match ← runTurn phaseBound p with
      | none => return none
      | some () => runTurns phaseBound bound (← afterTurn p)

/-- How a game stands: won when one of several players is left, a draw otherwise. -/
def resultOf (g : Game) : GameResult :=
  match g.remaining with
  | [winner] => if 1 < g.players.count then .winner winner else .draw
  | _ => .draw

def chooseFirst : Step PlayerId :=
  modifyGet fun g =>
    match g.random.range? 0 g.players.count with
    | some (seat, random) => (⟨seat⟩, { g with random := random })
    | none => (⟨0⟩, g)

def openingDraws : Step Unit := do
  let g ← get
  g.players.ids.forM fun p => do
    match ← Act.outcome (Act.draw p g.config.startCards.toInt64) with
    | .ok () => pure ()
    | .error e => notice (.openingDrawFailed p e)

/-- Play a whole game: a random seat begins, everyone has the life and draws the cards of the
format, and turns run until the game is decided. Nothing when the bound is used up. -/
def run (bound : Nat) : Step (Option GameResult) := do
  let first ← chooseFirst
  modify fun g => { g with turn := { g.turn with active := first } }
  modify fun g => { g with players := g.players.map fun s => { s with life := g.config.startLife } }
  openingDraws
  notice (.gameStarted (← get).players.count first)
  match ← runTurns bound bound first with
  | none => return none
  | some () =>
    let result := resultOf (← get)
    result.winnerList.forM fun p => emit .win (.player p)
    notice (.gameOver (← get).turn.number result)
    return some result

end Step

end CardGame
