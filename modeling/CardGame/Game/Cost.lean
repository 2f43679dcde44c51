import CardGame.Game.Movement

/-!
Costs: whether they can be paid, and paying them. Activating needs a deactivated card and
deactivating an activated one; essence comes out of the controller's pool. What an ability asks for
beyond symbols is checked by counting what there is before anything is paid.
-/

namespace CardGame

namespace Game

def isReady (i : CardInstance) (costs : List CostSymbol) : Bool :=
  costs.all fun
    | .activate => !i.activated
    | .deactivate => i.activated
    | _ => true

def canPay (g : Game) (c : CardId) (costs : List CostSymbol) (x : Amount) : Bool :=
  match g.card? c with
  | none => false
  | some i => isReady i costs && (g.player i.controller).essence.canAfford costs x

/-- What paying the effects of a cost would take: symbols and life. -/
structure Bill where
  essence : List CostSymbol
  life : Amount

/-- The number of cards that an effect could act on and that a player controls. -/
def candidateCount (g : Game) (u : AbilityUse) (e : PlannedEffect) : Nat :=
  let objects := g.query u e.pending e.zone none .candidates
  ((objects.filterMap ObjectRef.card?).filter fun c =>
    (g.card? c).any (·.controller == u.controller)).length

/-- Add an effect to a bill; nothing when there are not the cards for it. -/
def billEffect (g : Game) (u : AbilityUse) (bill : Bill) (e : PlannedEffect) : Option Bill :=
  match e.effect with
  | .player (.sacrifice _) => if 0 < g.candidateCount u e then some bill else none
  | .player (.discard count filter) =>
    let n := count.value u.x
    let available := if filter.isSome then g.candidateCount u e
      else (g.player u.controller).hand.size
    if 0 ≤ n ∧ n.times ≤ available then some bill else none
  | .player (.payEssence costs) => some { bill with essence := bill.essence ++ costs }
  | .player (.payLife amount) => some { bill with life := Amount.plus bill.life (amount.value u.x) }
  | _ => some bill

def canPayEffects (g : Game) (p : PlayerId) (c : CardId) (a : Activated) (x : Amount) : Bool :=
  match g.players.get? p with
  | none => false
  | some player =>
    let u := { AbilityUse.fresh ⟨0⟩ .activated c p with x := x }.prepareClauses a.effectCosts
    match u.effects.foldlM (g.billEffect u) ⟨a.resourceCosts, 0⟩ with
    | none => false
    | some bill => bill.life ≤ player.life && player.essence.canAfford bill.essence x

def canPayAbility (g : Game) (p : PlayerId) (c : CardId) (a : Activated) (x : Amount) : Bool :=
  g.canPay c a.resourceCosts x && g.canPayEffects p c a x

end Game

namespace Act

def paySymbol (c : CardId) : CostSymbol → Act Unit
  | .activate => do
    changeCard c fun i => { i with activated := true }
    Step.emit .activate (.card c)
  | .deactivate => do
    changeCard c fun i => { i with activated := false }
    Step.emit .deactivate (.card c)
  | _ => return

def pay (c : CardId) (costs : List CostSymbol) (x : Amount) : Act Unit := do
  let controller := (← card c).controller
  let (paid, pool) := ((← getThe Game).player controller).essence.pay costs x
  modifyThe Game (·.modifyPlayer controller fun s => { s with essence := pool })
  require paid (.insufficientResources c)
  costs.forM (paySymbol c)

end Act

namespace Step

/-- The essence that a cost takes whatever x is. -/
def fixedCost (costs : List CostSymbol) : Amount :=
  costs.foldl (fun total c => Amount.plus total (match c with
    | .essence _ => 1
    | .generic q => q.value 0
    | _ => 0)) 0

/-- Ask for the value of x if a cost contains it: from zero up to what the pool holds beyond the
fixed costs. Declining means zero. -/
def chooseX (p : PlayerId) (costs : List CostSymbol) : Step Amount := do
  if costs.contains (.generic .x) then
    let pool := ((← get).player p).essence.length
    let most := Amount.minus (Int64.ofNat pool) (fixedCost costs)
    if 0 < most then
      let options := (List.range (most.times + 1)).map toString
      return ((← chooseOne p (.mode options)).map Int64.ofNat).getD 0
    else
      return 0
  else
    return 0

end Step

end CardGame
