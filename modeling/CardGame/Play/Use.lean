import CardGame.Effect.Ability

/-!
The use of an ability: a cast card, an activated ability or a fired trigger. Its clauses are
unfolded into single effects, each with what it still has to select; targets are chosen when the use
is played, and it waits on the stack until it resolves.
-/

namespace CardGame

structure UseId where
  number : Nat
deriving DecidableEq, Repr

inductive UseKind where
  | cast
  | activated
  | triggered
deriving DecidableEq, Repr

def UseKind.name : UseKind → String
  | cast => "Cast"
  | activated => "Activated"
  | triggered => "Triggered"

inductive SingleEffect where
  | player (e : PlayerEffect)
  | card (e : CardEffect)
deriving DecidableEq

namespace SingleEffect

def hasTarget : SingleEffect → Bool
  | player e => e.hasTarget
  | card e => e.hasTarget

def pendingMatch? : SingleEffect → Option Match
  | player e => e.pendingMatch?
  | card e => e.pendingMatch?

def searchZone? : SingleEffect → Option ZoneMatch
  | player e => e.searchZone?
  | card e => e.searchZone?

def text (self : String) : SingleEffect → String
  | player e => e.text self
  | card e => e.text self

end SingleEffect

structure PlannedEffect where
  effect : SingleEffect
  /-- The number of the clause; its effects share their subjects and the answer to "may". -/
  group : Nat
  /-- Each subject is asked before the effect applies. -/
  optional : Bool
  /-- Who acts: without a match the controller, or for effects of cards the source. -/
  subject : Option Match
  pending : Option Match
  zone : Option ZoneMatch
  subjects : List ObjectRef
  subjectsPicked : Bool
  objects : List ObjectRef
  picked : Bool
deriving DecidableEq

namespace PlannedEffect

def ofEffect (e : SingleEffect) (group : Nat) (optional : Bool) (subject : Option Match) :
    PlannedEffect :=
  ⟨e, group, optional, subject, e.pendingMatch?, e.searchZone?, [], false, [], false⟩

def ofClause (group : Nat) : Effect → List PlannedEffect
  | .player subject optional effects =>
    effects.map fun e => ofEffect (.player e) group optional (subject.map .player)
  | .card subject effects =>
    effects.map fun e => ofEffect (.card e) group false (subject.map .card)

def subjectToPick? (e : PlannedEffect) : Option Match :=
  if e.subjectsPicked then none else e.subject.filter Match.hasTarget

def objectsToPick? (e : PlannedEffect) : Option Match :=
  if e.picked then none else e.pending.filter fun m => m.hasTarget && e.effect.hasTarget

end PlannedEffect

structure AbilityUse where
  id : UseId
  kind : UseKind
  source : CardId
  controller : PlayerId
  effects : List PlannedEffect
  /-- Objects bound by the trigger. -/
  this : List ObjectRef
  sacrificed : List CardId
  /-- Every target chosen so far. -/
  targeting : List ObjectRef
  /-- The slot that a permanent should take. -/
  field : Option Nat
  x : Amount
  event : EventKind
  subject : Option ObjectRef
  nextGroup : Nat
deriving DecidableEq

namespace AbilityUse

def fresh (id : UseId) (kind : UseKind) (source : CardId) (controller : PlayerId) : AbilityUse :=
  ⟨id, kind, source, controller, [], [], [], [], none, 0, .none, none, 0⟩

def prepareClause (u : AbilityUse) (e : Effect) : AbilityUse :=
  { u with
    effects := u.effects ++ PlannedEffect.ofClause u.nextGroup e
    nextGroup := u.nextGroup + 1 }

def prepareClauses (u : AbilityUse) (es : List Effect) : AbilityUse :=
  es.foldl prepareClause u

def prepare (u : AbilityUse) (c : Composed) : AbilityUse :=
  u.prepareClauses c.effects

/-- Drop the effects, and keep what was bound. -/
def clearEffects (u : AbilityUse) : AbilityUse :=
  { u with effects := [], nextGroup := 0 }

def targets (u : AbilityUse) (o : ObjectRef) : Bool :=
  u.targeting.contains o

def text (u : AbilityUse) : String :=
  s!"Ability({u.id.number}) of {u.source.text} ({u.kind.name})"

end AbilityUse

end CardGame
