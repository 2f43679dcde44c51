import CardGame.Game.Prompting
import CardGame.Game.Query

/-!
Events. Emitting one marks a loser, fires the triggered abilities it matches on every board, and
tells the observers. Firing an ability chooses its targets, which emits events of its own; each
emission knows how many more may be nested inside it, and one that has no room left is dropped.
Nothing but the stack, the decisions of players and the marks of losers changes on the way.
-/

namespace CardGame

abbrev Announce := EventKind → ObjectRef → Step Unit

namespace Step

/-- Choose a target for a match, announcing it: the targets so far are listed in the use. Cards are
looked for on the boards unless zones are given. -/
def pickTarget (announce : Announce) (u : AbilityUse) (m : Match) (zones : Option ZoneMatch) :
    Step (List ObjectRef × AbilityUse) := do
  let options := (← get).query u (some m) (some (zones.getD [.board])) none .candidates
  let chosen ← chooseMany u.controller (.target options 1) 1
  match chosen.head?.bind fun i => options[i]? with
  | none => return ([], u)
  | some target =>
    announce .target target
    return ([target], { u with targeting := u.targeting ++ [target] })

/-- The objects of a match: a chosen one if it asks for a target, otherwise all that it means. -/
def pick (announce : Announce) (u : AbilityUse) (m : Match) (zones : Option ZoneMatch) :
    Step (List ObjectRef × AbilityUse) := do
  if m.hasTarget then
    pickTarget announce u m zones
  else
    return ((← get).query u (some m) zones none .bound, u)

/-- Choose the subjects of an effect when they are targets. Effects of one clause share them. -/
def pickSubjects (announce : Announce) (u : AbilityUse) (earlier : List PlannedEffect)
    (e : PlannedEffect) : Step (PlannedEffect × AbilityUse) := do
  match e.subjectToPick? with
  | none => return (e, u)
  | some m =>
    match earlier.find? fun d => d.group == e.group && d.subjectsPicked with
    | some d => return ({ e with subjects := d.subjects, subjectsPicked := true }, u)
    | none =>
      let (subjects, u) ← pick announce u m none
      return ({ e with subjects := subjects, subjectsPicked := true }, u)

def pickObjects (announce : Announce) (u : AbilityUse) (e : PlannedEffect) :
    Step (PlannedEffect × AbilityUse) := do
  match e.objectsToPick? with
  | none => return (e, u)
  | some m =>
    let (objects, u) ← pick announce u m e.zone
    return ({ e with objects := objects, picked := true }, u)

def pickEffects (announce : Announce) (u : AbilityUse) (earlier : List PlannedEffect) :
    List PlannedEffect → Step AbilityUse
  | [] => return { u with effects := earlier }
  | e :: rest => do
    let (e, u) ← pickSubjects announce u earlier e
    let (e, u) ← pickObjects announce u e
    pickEffects announce u (earlier ++ [e]) rest

def pickUse (announce : Announce) (u : AbilityUse) : Step AbilityUse :=
  pickEffects announce u [] u.effects

def playUse (announce : Announce) (u : AbilityUse) : Step Unit := do
  let u ← pickUse announce u
  modify (·.modifyStack (·.push u))

def nextUseId : Step UseId := do
  let n := (← get).nextUse
  modify fun g => { g with nextUse := n + 1 }
  return ⟨n⟩

end Step

namespace Game

/-- Whether a trigger's own condition holds for a subject, the kind of event apart. -/
def triggerHolds (g : Game) (t : Trigger) (u : AbilityUse) (subject : ObjectRef) : Bool :=
  let meant (m : CardMatch) := subject.card?.any (g.cardHolds u .bound m)
  match t with
  | .play m => meant m && (subject.card?.bind g.card?).any (·.controller == u.controller)
  | .gainLife m => subject.player?.any (g.playerHolds u m)
  | .loseLife m => subject.player?.any (g.playerHolds u m)
  | .dealtDamage m => meant m
  | .condition .yourTurn => g.turn.active == u.controller
  | .condition .notYourTurn => g.turn.active != u.controller
  | .condition (.player who action) =>
    let acting : Option PlayerId := match subject, action with
      | .player p, _ => some p
      | .card c, .draw => (g.card? c).map CardInstance.owner
      | .card c, .sacrifice _ => (g.card? c).map CardInstance.controller
    (match action with
      | .draw => true
      | .sacrifice m => meant m)
    && acting.any (g.playerHolds u who)
  | .condition (.card which _) => meant which
  | .condition (.numerical s c) =>
    (g.card? u.source).any fun i => g.comparisonHolds u .bound c (i.stat s)

/-- Whether a trigger is fired by the event of a use about a subject. A comparison is checked at
every event about the source. -/
def triggerMatches (g : Game) (t : Trigger) (u : AbilityUse) (subject : ObjectRef) : Bool :=
  (match t.eventKind? with
    | some kind => kind == u.event
    | none => subject == .card u.source)
  && g.triggerHolds t u subject

def boardCards (g : Game) : List CardId :=
  g.players.toList.flatMap fun (_, p) => p.board.cards

end Game

namespace Step

def fire (announce : Announce) (kind : EventKind) (subject : ObjectRef) (c : CardId)
    (controller : PlayerId) (t : Triggered) : Step Unit := do
  let u := { AbilityUse.fresh ⟨0⟩ .triggered c controller with
    event := kind, subject := some subject }
  if (← get).triggerMatches t.trigger u subject then
    let id ← nextUseId
    playUse announce ({ u with id := id, this := [subject] }.prepare t.effect)

def fireCard (announce : Announce) (kind : EventKind) (subject : ObjectRef) (c : CardId) :
    Step Unit := do
  match (← get).card? c with
  | none => return
  | some i =>
    if i.zone = .board ∧ !i.flipped then
      i.card.triggered.forM (fire announce kind subject c i.controller)

def fireTriggers (announce : Announce) (kind : EventKind) (subject : ObjectRef) : Step Unit := do
  (← get).boardCards.forM (fireCard announce kind subject)

def markLoser (kind : EventKind) (subject : ObjectRef) : Step Unit :=
  match kind, subject with
  | .lose, .player p => modify (·.modifyPlayer p fun s => { s with lost := true })
  | _, _ => return

def tellObservers (e : GameEvent) : Step Unit :=
  modify fun g => (g.observers.dispatch e.kind).foldl (fun g h => g.record (.handled h e)) g

/-- Emit an event, with room for a number of nested emissions; without any the event is dropped. -/
def emitWithin : (room : Nat) → Announce
  | 0, kind, subject => do
    notice (.eventDropped (← get).eventDepth kind subject)
  | room + 1, kind, subject => do
    modify fun g => { g with eventDepth := g.eventDepth + 1 }
    markLoser kind subject
    let event : GameEvent := ⟨kind, (← get).resolving, subject⟩
    modify (·.record (.emitted event))
    fireTriggers (emitWithin room) kind subject
    tellObservers event
    modify fun g => { g with eventDepth := g.eventDepth - 1 }

def emit (kind : EventKind) (subject : ObjectRef) : Step Unit := do
  let g ← get
  emitWithin (g.config.maxEventDepth.toNat - g.eventDepth) kind subject

end Step

end CardGame
