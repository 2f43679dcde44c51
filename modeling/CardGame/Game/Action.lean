import CardGame.Game.Cost
import CardGame.Game.Resolution

/-!
What a player with priority may do: cast a card from the hand, play one as a source, or use an
ability of a card on the board. Each action checks timing and costs before it pays; the checks are
also there on their own, to tell what can be done.
-/

namespace CardGame

namespace Game

/-- Whether it is a player's play phase with an empty stack. -/
def isMainTiming (g : Game) (p : PlayerId) : Bool :=
  g.turn.active == p && g.turn.phase == .play && g.stack.isEmpty

def isInHand (g : Game) (p : PlayerId) (c : CardId) : Bool :=
  (g.card? c).any fun i => i.zone == .hand && i.owner == p

def hasRoom (g : Game) (p : PlayerId) : Bool :=
  (g.player p).board.firstFree?.isSome

/-- Whether a player could cast a card, x being zero. -/
def canCast (g : Game) (p : PlayerId) (c : CardId) : Bool :=
  match g.card? c with
  | none => false
  | some i =>
    g.isInHand p c
    && g.stack.priority == p
    && (i.hasKeyword .ambush || g.isMainTiming p)
    && (!i.isPermanent || g.hasRoom p)
    && g.canPay c i.card.costs 0

def canPlaySource (g : Game) (p : PlayerId) (c : CardId) : Bool :=
  g.isInHand p c
  && g.stack.priority == p
  && g.isMainTiming p
  && g.turn.sourcesPlayed < g.config.sourcesPerTurn.toNat
  && g.hasRoom p

def usableAbilities (g : Game) (p : PlayerId) (c : CardId) : List Nat :=
  match g.card? c with
  | none => []
  | some i =>
    if i.zone = .board ∧ i.controller = p ∧ g.stack.priority = p then
      (i.activatedAbilities.zipIdx.filter fun (a, _) =>
        (a.isCost || g.isMainTiming p) && g.canPayAbility p c a 0).map (·.2)
    else
      []

def playable (g : Game) (p : PlayerId) : List CardId :=
  match g.players.get? p with
  | none => []
  | some s =>
    s.board.cards.filter (fun c => !(g.usableAbilities p c).isEmpty)
      ++ s.hand.cards.filter fun c => g.canCast p c || g.canPlaySource p c

end Game

namespace Act

def inHand (p : PlayerId) (c : CardId) : Act CardInstance := do
  let i ← card c
  require (i.zone == .hand && i.owner == p) (.notPlayable c .notInHand)
  return i

def checkPriority (p : PlayerId) : Act Unit := do
  require ((← getThe Game).stack.priority == p) (.notYourPriority p)

/-- The slot that a permanent will take: the one asked for, or the first free one. -/
def fieldFor (p : PlayerId) (c : CardId) (field : Option Nat) : Act Nat := do
  let board := ((← getThe Game).player p).board
  match field with
  | some slot =>
    require (board.isFree slot) (.notPlayable c .fieldTaken)
    return slot
  | none =>
    match board.firstFree? with
    | some slot => return slot
    | none => throw (.notPlayable c .boardFull)

/-- Ask for the value of x of a cost that has to be affordable, with x being zero as with the value
that the player chooses. -/
def affordableX (p : PlayerId) (c : CardId) (costs : List CostSymbol)
    (affordable : Game → Amount → Bool) : Act Amount := do
  require (affordable (← getThe Game) 0) (.insufficientResources c)
  let x ← Step.chooseX p costs
  require (affordable (← getThe Game) x) (.insufficientResources c)
  return x

/-- The clauses that a card carries out when it resolves; a permanent has none. -/
def castClauses (i : CardInstance) : List Effect :=
  if i.isPermanent then [] else
    i.card.abilities.flatMap fun
      | .composed composed => composed.effects
      | _ => []

def castFor (p : PlayerId) (c : CardId) (i : CardInstance) (field : Option Nat) (x : Amount) :
    Act Unit := do
  pay c i.card.costs x
  let id ← Step.nextUseId
  moveCard c .stack .top
  Step.playUse Step.emit
    ({ AbilityUse.fresh id .cast c p with x := x, field := field }.prepareClauses (castClauses i))

/-- Cast a card from the hand. A permanent takes a slot when it resolves; any other card prepares
its effects and chooses its targets now. -/
def cast (p : PlayerId) (c : CardId) (field : Option Nat) : Act Unit := do
  let i ← inHand p c
  checkPriority p
  require (i.hasKeyword .ambush || (← getThe Game).isMainTiming p) (.notPlayable c .badTiming)
  let field ← if i.isPermanent then some <$> fieldFor p c field else pure none
  let x ← affordableX p c i.card.costs fun g x => g.canPay c i.card.costs x
  castFor p c i field x

/-- Pay the actions that an ability costs: targets are chosen, and they resolve at once. -/
def payActions (u : AbilityUse) : Act AbilityUse := do
  if u.effects.isEmpty then
    return u
  else
    let u ← Step.pickUse Step.emit u
    let u ← resolveNow u
    return { u.clearEffects with targeting := [] }

/-- Pay for an ability and carry it out: one that is a cost resolves at once, any other one goes on
the stack. -/
def activateFor (p : PlayerId) (c : CardId) (a : Activated) (x : Amount) : Act Unit := do
  pay c a.resourceCosts x
  let id ← Step.nextUseId
  let paid ← payActions
    ({ AbilityUse.fresh id .activated c p with x := x }.prepareClauses a.effectCosts)
  if a.isCost then
    resolveUse (← Step.pickUse Step.emit (paid.prepare a.effect))
    modifyThe Game (·.modifyStack (·.acted))
  else
    Step.playUse Step.emit (paid.prepare a.effect)

def activate (p : PlayerId) (c : CardId) (index : Nat) : Act Unit := do
  let i ← card c
  require (i.zone == .board && i.controller == p) (.notPlayable c .notOnBoard)
  match i.activatedAbilities[index]? with
  | none => throw (.notPlayable c .noSuchAbility)
  | some a =>
    checkPriority p
    require (a.isCost || (← getThe Game).isMainTiming p) (.notPlayable c .badTiming)
    let x ← affordableX p c a.resourceCosts fun g x => g.canPayAbility p c a x
    activateFor p c a x

/-- Play a card from the hand as a source. It enters the board activated, and flipped unless it is a
source. -/
def playSource (p : PlayerId) (c : CardId) : Act Unit := do
  let _ ← inHand p c
  checkPriority p
  let g ← getThe Game
  require (g.isMainTiming p) (.notPlayable c .badTiming)
  require (g.turn.sourcesPlayed < g.config.sourcesPerTurn.toNat) (.notPlayable c .sourceLimit)
  require (g.hasRoom p) (.notPlayable c .boardFull)
  changeCard c fun i => { i with flipped := !i.card.hasKind .source, activated := true }
  moveCard c .board .top
  modifyThe Game fun g =>
    { g with turn := { g.turn with sourcesPlayed := g.turn.sourcesPlayed + 1 } }
  modifyThe Game (·.modifyStack (·.acted))
  Step.emit .play (.card c)

end Act

namespace Step

/-- Ask which usable ability of a card to use, and use it. Nothing when the player declines. -/
def actOnBoard (p : PlayerId) (c : CardId) (i : CardInstance) :
    Step (Option (Except EngineError Unit)) := do
  let usable := (← get).usableAbilities p c
  let labels := usable.filterMap fun k => (i.activatedAbilities[k]?).map (·.text i.card.name)
  match (← chooseOne p (.ability c labels)).bind fun k => usable[k]? with
  | none => return none
  | some index => return some (← Act.outcome (Act.activate p c index))

def chooseAsSource (p : PlayerId) (c : CardId) : Step (Option Bool) := do
  let g ← get
  match g.canCast p c, g.canPlaySource p c with
  | true, true => return (← chooseOne p (.mode ["cast", "play as source"])).map (· == 1)
  | _, source => return some source

def castFromHand (p : PlayerId) (c : CardId) (i : CardInstance) :
    Step (Option (Except EngineError Unit)) := do
  if i.isPermanent then
    let free := ((← get).player p).board.freeSlots
    match (← chooseOne p (.field free)).bind fun k => free[k]? with
    | none => return none
    | some slot => return some (← Act.outcome (Act.cast p c (some slot)))
  else
    return some (← Act.outcome (Act.cast p c none))

def actFromHand (p : PlayerId) (c : CardId) (i : CardInstance) :
    Step (Option (Except EngineError Unit)) := do
  match ← chooseAsSource p c with
  | none => return none
  | some true => return some (← Act.outcome (Act.playSource p c))
  | some false => castFromHand p c i

/-- Let a player take one action of their choice. False when the player passes, declines a question
or the action fails. -/
def takeAction (p : PlayerId) : Step Bool := do
  let options := (← get).playable p
  match (← chooseOne p (.card options)).bind fun k => options[k]? with
  | none => return false
  | some c =>
    match (← get).card? c with
    | none => return false
    | some i =>
      let result ← if i.zone = .board then actOnBoard p c i else actFromHand p c i
      match result with
      | some (.ok ()) => return true
      | _ => return false

end Step

end CardGame
