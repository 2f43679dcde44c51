import CardGame.Effect.Basic
import CardGame.Effect.Trigger

/-!
Abilities: what one sentence on a card can be. A keyword is a tag, a composed ability happens when
the card itself resolves, an activated one is used from the board at a cost, and a triggered one is
fired by an event.
-/

namespace CardGame

structure Composed where
  effects : List Effect
deriving DecidableEq

namespace Composed

def hasTarget (c : Composed) : Bool :=
  c.effects.any Effect.hasTarget

def isCost (c : Composed) : Bool :=
  !c.hasTarget && c.effects.all Effect.isCost

def text (self : String) (c : Composed) : String :=
  Text.join ", then " (c.effects.map (Effect.text self)) ++ "."

end Composed

inductive AbilityCost where
  | symbol (c : CostSymbol)
  | effect (e : Effect)
deriving DecidableEq

def AbilityCost.text (self : String) : AbilityCost → String
  | symbol c => c.text
  | effect e => e.text self

structure Activated where
  costs : List AbilityCost
  effect : Composed
deriving DecidableEq

namespace Activated

def resourceCosts (a : Activated) : List CostSymbol :=
  a.costs.filterMap fun
    | .symbol c => some c
    | .effect _ => none

def effectCosts (a : Activated) : List Effect :=
  a.costs.filterMap fun
    | .symbol _ => none
    | .effect e => some e

/-- An ability that is a cost resolves on activation and never uses the stack. -/
def isCost (a : Activated) : Bool :=
  a.effect.isCost

def text (self : String) (a : Activated) : String :=
  Text.join " " (a.costs.map (AbilityCost.text self)) ++ ": " ++ a.effect.text self

end Activated

structure Triggered where
  trigger : Trigger
  effect : Composed
deriving DecidableEq

def Triggered.text (self : String) (t : Triggered) : String :=
  t.trigger.text self ++ ", " ++ t.effect.text self

inductive Ability where
  | keyword (k : Keyword)
  | composed (c : Composed)
  | activated (a : Activated)
  | triggered (t : Triggered)
deriving DecidableEq

namespace Ability

def hasTarget : Ability → Bool
  | keyword _ => false
  | composed c => c.hasTarget
  | activated a => a.effect.hasTarget
  | triggered t => t.effect.hasTarget

def isCost : Ability → Bool
  | keyword _ => false
  | composed c => c.isCost
  | activated a => a.isCost
  | triggered t => t.effect.isCost

def text (self : String) : Ability → String
  | keyword k => k.word
  | composed c => c.text self
  | activated a => a.text self
  | triggered t => t.text self

end Ability

end CardGame
