import CardGame.Game.Emission

/-!
Changes of zone, and the changes of damage and life that effects are made of. Every card moves
through one operation, which keeps the zones, the card's own record of its zone and its slot in
agreement and emits events around changes of a board.
-/

namespace CardGame.Act

/-- The slot that a card takes when it moves: on a board the one asked for, or the first free
one. -/
def slotFor (c : CardId) (i : CardInstance) (goal : Zone) (position : Position) :
    Act (Option Nat) := do
  let illegal := EngineError.illegalTransition c i.zone goal
  if goal ≠ .board then
    return none
  else if i.zone = .board then
    throw (illegal .alreadyOnBoard)
  else
    let board := ((← getThe Game).player i.controller).board
    match position with
    | .index slot =>
      if board.isFree slot then return some slot else throw (illegal .slotOccupied)
    | _ =>
      match board.firstFree? with
      | some slot => return some slot
      | none => throw (illegal .boardFull)

/-- Take a card out of the zone it is in. A card leaves a board with an event, and as it is when
nothing has happened to it. -/
def takeOut (c : CardId) (i : CardInstance) : Act Unit := do
  if i.zone = .board then
    Step.emit .leaveBoard (.card c)
    let controller := (← card c).controller
    modifyThe Game fun g =>
      (g.modifyPlayer controller fun p => { p with board := p.board.remove c }).modifyCard
        c fun i =>
        { i.leaveBoard with controller := i.owner }
  else
    modifyThe Game (·.modifyPlayer i.owner (·.modifyPile i.zone (·.remove c)))

def putInto (c : CardId) (i : CardInstance) (goal : Zone) (position : Position)
    (slot : Option Nat) :
    Act Unit := do
  match slot with
  | some slot =>
    modifyThe Game fun g =>
      (g.modifyPlayer i.controller fun p => { p with board := p.board.place slot c }).modifyCard c
        fun i => { i with slot := some slot }
  | none => modifyThe Game (·.modifyPlayer i.owner (·.modifyPile goal (·.insert c position)))
  modifyThe Game (·.modifyCard c fun i => { i with zone := goal })

/-- Move a card to a zone: to its controller's board, to a position in an ordered zone of its owner,
or to the stack, where it is in no zone of a player. -/
def moveCard (c : CardId) (goal : Zone) (position : Position) : Act Unit := do
  let i ← card c
  let slot ← slotFor c i goal position
  takeOut c i
  putInto c i goal position slot
  if goal = .board then
    Step.emit .enterBoard (.card c)

/-- Draw so many cards. Drawing from an empty deck loses the game and ends the drawing. -/
def drawCards (p : PlayerId) : Nat → Act Unit
  | 0 => return
  | n + 1 => do
    match ((← getThe Game).player p).deck.top? with
    | none => Step.emit .lose (.player p)
    | some c =>
      moveCard c .hand .bottom
      Step.emit .draw (.card c)
      drawCards p n

def draw (p : PlayerId) (count : Amount) : Act Unit :=
  drawCards p count.times

def destroy (c : CardId) : Act Unit := do
  moveCard c .pile .top
  Step.emit .destroy (.card c)

def checkLethal (c : CardId) : Act Unit := do
  let i ← card c
  if i.zone = .board ∧ i.isDead then
    destroy c

def dealDamage (c : CardId) (n : Amount) : Act Unit := do
  changeCard c fun i => { i with damage := Amount.plus i.damage n }
  Step.emit .damage (.card c)
  checkLethal c

end CardGame.Act

namespace CardGame.Step

/-- Take life from a player. A player without life loses, unless that has happened before. -/
def loseLife (p : PlayerId) (n : Amount) : Step Unit := do
  modify (·.modifyPlayer p fun s => { s with life := Amount.minus s.life n })
  emit .loseLife (.player p)
  let s := (← get).player p
  if s.life ≤ 0 ∧ !s.lost then
    emit .lose (.player p)

def gainLife (p : PlayerId) (n : Amount) : Step Unit := do
  modify (·.modifyPlayer p fun s => { s with life := Amount.plus s.life n })
  emit .gainLife (.player p)

def shuffleZone (p : PlayerId) (z : Zone) : Step Unit :=
  modify fun g =>
    match (g.player p).pileOf? z with
    | none => g
    | some pile =>
      let (pile, random) := pile.shuffle g.random
      { g.modifyPlayer p (·.modifyPile z fun _ => pile) with random := random }

def addCard (owner : PlayerId) (template : Card) (z : Zone) : Step CardId :=
  modifyGet fun g =>
    let c : CardId := ⟨g.cards.size⟩
    (c, { g with cards := g.cards.push (.fresh c template owner z) })

end CardGame.Step

namespace CardGame.Act

def createCard (owner : PlayerId) (template : Card) (z : Zone) : Act CardId := do
  let g ← getThe Game
  let next : CardId := ⟨g.cards.size⟩
  require (g.players.get? owner).isSome (.notPlayable next .unknownOwner)
  require (z ≠ .board || (g.player owner).board.firstFree?.isSome)
    (.illegalTransition next .stack .board .boardFull)
  let c ← Step.addCard owner template .stack
  if z ≠ .stack then
    moveCard c z .bottom
  return c

end CardGame.Act
