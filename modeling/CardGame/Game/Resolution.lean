import CardGame.Game.Movement

/-!
Resolving uses of abilities. Effects apply in the order of the text; for each one its subjects and
objects are worked out against the state at that moment, unless they were chosen as targets. A cast
card leaves the stack once its effects are through, even when one of them failed.
-/

namespace CardGame

namespace Card

def capitalize (w : String) : String :=
  match w.toList with
  | [] => ""
  | c :: rest => String.ofList (c.toUpper :: rest)

/-- The template of a created token, named for its subtypes. -/
def token (stats : Option Stats) (kinds : List KindWord) (subtypes : List CardSubtype) : Card :=
  let written := kinds.map fun k : KindWord => (⟨k.kind, false⟩ : KindWord)
  { name := Text.join " " (subtypes.map (capitalize ·.word) ++ ["Token"])
    costs := []
    kinds := if kinds.any (·.kind == .token) then written else written ++ [⟨.token, false⟩]
    subtypes := subtypes
    abilities := []
    stats := stats }

end Card

/-- The replies to "may" so far, by clause and player. -/
abbrev Consents := List ((Nat × PlayerId) × Bool)

structure Resolution where
  use : AbilityUse
  consents : Consents

namespace Game

/-- The subjects of an effect: those chosen, those its match means, or else the controller for
effects of players and the source for effects of cards. -/
def subjectsOf (g : Game) (u : AbilityUse) (e : PlannedEffect) : List ObjectRef :=
  if e.subjectsPicked then
    e.subjects
  else
    match e.subject, e.effect with
    | some (.card m), _ => g.query u (some (.card m)) (some [.board, .stack]) none .bound
    | some m, _ => g.query u (some m) none none .bound
    | none, .player _ => [.player u.controller]
    | none, .card _ => [.card u.source]

def objectsFor (g : Game) (u : AbilityUse) (e : PlannedEffect) : List ObjectRef :=
  if e.picked then
    e.objects
  else
    match e.pending with
    | some m => g.query u (some m) e.zone none .bound
    | none => []

end Game

namespace Act

def createTokens (p : PlayerId) (template : Card) : Nat → Act Unit
  | 0 => return
  | n + 1 => do
    if ((← getThe Game).player p).board.firstFree?.isSome then
      let _ ← createCard p template .board
      createTokens p template n

def destroyCards (cards : List CardId) : Act Unit :=
  cards.forM fun c => do
    if (← card c).zone = .board then
      destroy c

def fillUp (chosen : List Nat) (size n : Nat) : List Nat :=
  chosen ++ ((List.range size).filter (!chosen.contains ·)).take (n - chosen.length)

/-- Discard an amount of the cards in hand that are eligible. Discarding is not optional; what the
player does not choose is taken from the front. -/
def discard (p : PlayerId) (count : Amount) (eligible : Option (List CardId)) : Act Unit := do
  let hand := ((← getThe Game).player p).hand.cards
  let options := match eligible with
    | some cards => hand.filter cards.contains
    | none => hand
  let n := min count.times options.length
  let chosen ← Step.chooseMany p (.discard options n) n
  (fillUp chosen options.length n).forM fun i =>
    match options[i]? with
    | none => return
    | some c => do
      moveCard c .pile .top
      Step.emit .discard (.card c)

def shuffleInto (p : PlayerId) (cards : List CardId) (z : Zone) : Act Unit := do
  cards.forM fun c => do
    if (← card c).zone ≠ z then
      moveCard c z .top
  Step.shuffleZone p z

def look (p : PlayerId) (count : Amount) (z : Zone) : Act Unit := do
  match ((← getThe Game).player p).pileOf? z with
  | some pile => Step.reveal p (pile.peek count.times)
  | none => Step.reveal p []

def shuffled (cards : List CardId) : Step (List CardId) :=
  modifyGet fun g =>
    let (cards, random) := g.random.shuffle cards
    (cards, { g with random := random })

/-- Put cards into a zone; those for which a board has no room, or that are on it, stay. -/
def put (cards : List CardId) (z : Zone) (position : Position) (deactivated : Bool) : Act Unit :=
  cards.forM fun c => do
    let i ← card c
    let full := ((← getThe Game).player i.controller).board.firstFree?.isNone
    if z = .board ∧ (i.zone = .board ∨ full) then
      return
    moveCard c z position
    if deactivated then
      changeCard c fun i => { i with activated := false }

def setActivated (cards : List CardId) (on : Bool) : Act Unit :=
  cards.forM fun c => do
    changeCard c fun i => { i with activated := on }
    Step.emit (if on then .activate else .deactivate) (.card c)

def ownedOnBoard (p : PlayerId) (cards : List CardId) : Act (List CardId) :=
  cards.filterM fun c => do
    let i ← card c
    return i.zone == .board && i.controller == p

def sacrificeEach (u : AbilityUse) : List CardId → Act AbilityUse
  | [] => return u
  | c :: rest => do
    moveCard c .pile .top
    let u := { u with sacrificed := u.sacrificed ++ [c] }
    Step.emit .sacrifice (.card c)
    sacrificeEach u rest

/-- Sacrifice cards of the player: those chosen as targets, all of them when the match is in the
plural, and otherwise one of the player's choice. -/
def sacrifice (u : AbilityUse) (p : PlayerId) (m : CardMatch) (cards : List CardId) :
    Act AbilityUse := do
  let owned ← ownedOnBoard p cards
  if !m.hasTarget && !m.isPlural && 1 < owned.length then
    match (← Step.chooseOne p (.card owned)).bind fun i => owned[i]? with
    | none => return u
    | some c => sacrificeEach u [c]
  else
    sacrificeEach u owned

def applyToPlayer (u : AbilityUse) (e : PlayerEffect) (p : PlayerId) (objects : List ObjectRef) :
    Act AbilityUse := do
  let cards := objects.filterMap ObjectRef.card?
  match e with
  | .draw count => draw p (count.value u.x)
  | .token count stats kinds subtypes =>
    createTokens p (.token stats kinds subtypes) (count.value u.x).times
  | .destroy _ => destroyCards cards
  | .discard count filter => discard p (count.value u.x) (filter.map fun _ => cards)
  | .shuffle _ zone => shuffleInto p cards zone.first
  | .look count zone => look p (count.value u.x) zone.first
  | .put _ position zone _ randomOrder deactivated =>
    let cards ← if randomOrder then shuffled cards else pure cards
    put cards zone.first (if position = .top then .top else .bottom) deactivated
  | .activate _ => setActivated cards true
  | .deactivate _ => setActivated cards false
  | .sacrifice m => return ← sacrifice u p m cards
  | .add essence =>
    modifyThe Game (·.modifyPlayer p fun s =>
      { s with essence := essence.foldl (fun pool c => pool.add c u.x) s.essence })
  | .payEssence costs =>
    modifyThe Game (·.modifyPlayer p fun s =>
      match s.essence.pay costs u.x with
      | (true, pool) => { s with essence := pool }
      | (false, _) => s)
  | .gainLife amount => Step.gainLife p (amount.value u.x)
  | .loseLife amount => Step.loseLife p (amount.value u.x)
  | .payLife amount => Step.loseLife p (amount.value u.x)
  | .extraTurn count => modifyThe Game (·.modifyPlayer p (·.addExtraTurns (count.value u.x)))
  return u

/-- The next opponent in seat order who has not lost. -/
def defender? (g : Game) (p : PlayerId) : Option PlayerId :=
  let seats := g.players.count
  ((List.range (seats - 1)).map fun i => (⟨(p.seat + 1 + i) % seats⟩ : PlayerId)).find? fun q =>
    !(g.player q).lost

/-- Attack the slot of the next opponent that faces the attacker: a card there takes the damage,
otherwise the opponent does. -/
def attack (c : CardId) : Act Unit := do
  let i ← card c
  Step.emit .attack (.card c)
  let g ← getThe Game
  match defender? g i.controller with
  | none => return
  | some opponent =>
    match i.slot.bind (g.player opponent).board.get? with
    | some blocker =>
      Step.emit .block (.card blocker)
      dealDamage blocker i.power
    | none =>
      Step.loseLife opponent i.power
      Step.emit .playerDamage (.player opponent)

def damageObject (n : Amount) : ObjectRef → Act Unit
  | .card c => do
    if (← card c).zone = .board then
      dealDamage c n
  | .player p => do
    Step.loseLife p n
    Step.emit .playerDamage (.player p)

def applyToCard (x : Amount) (e : CardEffect) (c : CardId) (objects : List ObjectRef) : Act Unit :=
  match e with
  | .damage amount _ => objects.forM (damageObject (amount.value x))
  | .gets powerSign power healthSign health => do
    let bonus : Modifier := ⟨powerSign.apply (power.value x), healthSign.apply (health.value x)⟩
    changeCard c fun i => { i with modifiers := i.modifiers ++ [bonus] }
    checkLethal c
  | .attack => attack c

/-- Ask a player whether an optional clause applies, once for each clause. -/
def consents (answers : Consents) (group : Nat) (p : PlayerId) : Step (Bool × Consents) := do
  match answers.lookup (group, p) with
  | some accepted => return (accepted, answers)
  | none =>
    let accepted := (← Step.chooseOne p (.mode ["accept", "decline"])) == some 0
    return (accepted, answers ++ [((group, p), accepted)])

def resolveForPlayer (e : PlannedEffect) (effect : PlayerEffect) (objects : List ObjectRef)
    (r : Resolution) (p : PlayerId) : Act Resolution := do
  let (accepted, answers) ← if e.optional then consents r.consents e.group p
    else pure (true, r.consents)
  if accepted then
    return ⟨← applyToPlayer r.use effect p objects, answers⟩
  else
    return ⟨r.use, answers⟩

def resolveEffect (r : Resolution) (e : PlannedEffect) : Act Resolution := do
  let g ← getThe Game
  let subjects := g.subjectsOf r.use e
  let objects := g.objectsFor r.use e
  match e.effect with
  | .player effect =>
    (subjects.filterMap ObjectRef.player?).foldlM (resolveForPlayer e effect objects) r
  | .card effect =>
    (subjects.filterMap ObjectRef.card?).forM fun c => applyToCard r.use.x effect c objects
    return r

def resolveEffects (u : AbilityUse) : Act AbilityUse := do
  return (← u.effects.foldlM resolveEffect ⟨u, []⟩).use

/-- Put a cast card that is still on the stack where it belongs: a permanent into its slot or the
first free one, everything else onto the pile. -/
def finishCast (u : AbilityUse) : Act Unit := do
  let i ← card u.source
  if i.zone = .stack then
    if i.isPermanent then
      let board := ((← getThe Game).player i.controller).board
      match (u.field.filter board.isFree).or board.firstFree? with
      | some slot => moveCard u.source .board (.index slot)
      | none =>
        Step.notice (.noFreeSlot u.source)
        moveCard u.source .pile .top
    else
      moveCard u.source .pile .top
  Step.emit .play (.card u.source)

def onBehalfOf {α : Type} (c : CardId) (act : Act α) : Act α := do
  let previous := (← getThe Game).resolving
  modifyThe Game fun g => { g with resolving := some c }
  let result ← attempt act
  modifyThe Game fun g => { g with resolving := previous }
  ofOutcome result

def resolveNow (u : AbilityUse) : Act AbilityUse :=
  onBehalfOf u.source (resolveEffects u)

/-- Resolve a use that was taken off the stack. A cast card leaves the stack also when one of its
effects fails. -/
def resolveUse (u : AbilityUse) : Act Unit :=
  onBehalfOf u.source do
    let result ← attempt (resolveEffects u)
    if u.kind = .cast then
      finishCast u
    let _ ← ofOutcome result

end Act

end CardGame
