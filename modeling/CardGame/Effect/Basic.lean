import CardGame.Match.Text

/-!
Effects: what a clause on a card does. A clause names who acts, players or cards, and one or more
effects that they perform.
-/

namespace CardGame

inductive Sign where
  | plus
  | minus
deriving DecidableEq, Repr

namespace Sign

def apply : Sign → Amount → Amount
  | plus, a => a
  | minus, a => Amount.opposite a

def text : Sign → String
  | plus => "+"
  | minus => "-"

end Sign

inductive PutPosition where
  | top
  | bottom
  | into
deriving DecidableEq, Repr

inductive PlayerEffect where
  | draw (count : Quantity)
  | token (count : Quantity) (stats : Option Stats) (kinds : List KindWord)
      (subtypes : List CardSubtype)
  | destroy (target : CardMatch)
  | discard (count : Quantity) (filter : Option CardMatch)
  | shuffle (objects : Option CardMatch) (zone : ZoneMatch)
  | look (count : Quantity) (zone : ZoneMatch)
  | put (objects : CardMatch) (position : PutPosition) (zone : ZoneMatch)
      (anyOrder randomOrder deactivated : Bool)
  | activate (objects : CardMatch)
  | deactivate (objects : CardMatch)
  | sacrifice (objects : CardMatch)
  | add (essence : List CostSymbol)
  | payEssence (costs : List CostSymbol)
  | gainLife (amount : Quantity)
  | loseLife (amount : Quantity)
  | payLife (amount : Quantity)
  | extraTurn (count : Quantity)
deriving DecidableEq

namespace PlayerEffect

/-- The objects an effect acts on; targeted ones are chosen when the ability is played. -/
def pendingMatch? : PlayerEffect → Option Match
  | destroy target => some (.card target)
  | shuffle (some objects) _ => some (.card objects)
  | put objects _ _ _ _ _ => some (.card objects)
  | activate objects => some (.card objects)
  | deactivate objects => some (.card objects)
  | sacrifice objects => some (.card objects)
  | discard _ (some filter) => some (.card filter)
  | _ => none

/-- Whether an effect asks for a target; shuffled cards are never chosen. -/
def hasTarget (e : PlayerEffect) : Bool :=
  match e with
  | shuffle _ _ => false
  | _ => e.pendingMatch?.any Match.hasTarget

/-- Whether an effect may be paid at once: only adding essence may. -/
def isCost : PlayerEffect → Bool
  | add _ => true
  | _ => false

def searchZone? : PlayerEffect → Option ZoneMatch
  | destroy _ => some [.board]
  | sacrifice _ => some [.board]
  | discard _ _ => some [.hand]
  | _ => none

def destination? : PlayerEffect → Option ZoneMatch
  | shuffle _ zone => some zone
  | look _ zone => some zone
  | put _ _ zone _ _ _ => some zone
  | _ => none

/-- The ending of a noun after a number: none for one, else an s. -/
def pluralEnding : Quantity → String
  | .one => ""
  | .number n => if n = 1 then "" else "s"
  | .x => "s"

def positionText : PutPosition → String
  | .top => "on top of"
  | .bottom => "on the bottom of"
  | .into => "into"

def text (self : String) : PlayerEffect → String
  | draw count => "draw " ++ count.text ++ " card" ++ pluralEnding count
  | token count stats kinds subtypes =>
    Text.join " "
      (["create", count.text] ++ stats.toList.map Stats.text ++ kinds.map KindWord.text
        ++ subtypes.map CardSubtype.word ++ ["token" ++ pluralEnding count])
  | destroy target => "destroy " ++ CardMatch.text self target
  | discard count filter =>
    Text.join " " (["discard", count.text] ++ filter.toList.map (CardMatch.text self))
  | shuffle objects zone =>
    "shuffle " ++ (match objects with
      | some m => CardMatch.text self m ++ " into "
      | none => "") ++ zone.text
  | look count zone => "look at the top " ++ count.text ++ " cards of " ++ zone.text
  | put objects position zone anyOrder randomOrder deactivated =>
    "put " ++ CardMatch.text self objects ++ " " ++ positionText position ++ " " ++ zone.text
      ++ (if anyOrder then " in any order" else "")
      ++ (if randomOrder then " in random order" else "")
      ++ (if deactivated then " deactivated" else "")
  | activate objects => "activate " ++ CardMatch.text self objects
  | deactivate objects => "deactivate " ++ CardMatch.text self objects
  | sacrifice objects => "sacrifice " ++ CardMatch.text self objects
  | add essence => "add " ++ Text.join "" (essence.map CostSymbol.text)
  | payEssence costs => "spend " ++ Text.join "" (costs.map CostSymbol.text)
  | gainLife amount => "gain " ++ amount.text ++ " life"
  | loseLife amount => "lose " ++ amount.text ++ " life"
  | payLife amount => "spend " ++ amount.text ++ " life"
  | extraTurn count => "take " ++ count.text ++ " extra turn" ++ pluralEnding count

end PlayerEffect

inductive CardEffect where
  | damage (amount : Quantity) (target : AnyMatch)
  | gets (powerSign : Sign) (power : Quantity) (healthSign : Sign) (health : Quantity)
  /-- The attack that every unit has; never printed. -/
  | attack
deriving DecidableEq

namespace CardEffect

def hasTarget : CardEffect → Bool
  | damage _ target => target.hasTarget
  | _ => false

def pendingMatch? : CardEffect → Option Match
  | damage _ target => some (.any target)
  | _ => none

def searchZone? : CardEffect → Option ZoneMatch
  | damage _ _ => some [.board]
  | _ => none

def text (self : String) : CardEffect → String
  | damage amount target => "deals " ++ amount.text ++ " damage to " ++ target.text self
  | gets powerSign power healthSign health =>
    "gets " ++ powerSign.text ++ power.text ++ "/" ++ healthSign.text ++ health.text
  | attack => "attacks"

end CardEffect

inductive Effect where
  /-- Players act: the controller when none are named. An optional clause is offered to each. -/
  | player (subject : Option PlayerMatch) (optional : Bool) (effects : List PlayerEffect)
  /-- Cards act: the source when none are named. -/
  | card (subject : Option CardMatch) (effects : List CardEffect)
deriving DecidableEq

namespace Effect

/-- Whether a clause asks for a target, as its subject or for one of its effects. -/
def hasTarget : Effect → Bool
  | player _ _ effects => effects.any PlayerEffect.hasTarget
  | card subject effects => subject.any CardMatch.hasTarget || effects.any CardEffect.hasTarget

def startsWithCost : List PlayerEffect → Bool
  | [] => false
  | e :: rest => if e.hasTarget then false else e.isCost || startsWithCost rest

/-- Whether a clause may be paid at once: no target comes before its first cost. Cards perform no
costs. -/
def isCost : Effect → Bool
  | player _ _ effects => startsWithCost effects
  | card _ _ => false

def text (self : String) : Effect → String
  | player subject optional effects =>
    (match subject with
      | some m => PlayerMatch.text m ++ (if optional then " may " else " ")
      | none => "")
      ++ Text.join ", then " (effects.map (PlayerEffect.text self))
  | card subject effects =>
    (match subject with
      | some m => CardMatch.text self m ++ " "
      | none => "")
      ++ Text.join ", then " (effects.map (CardEffect.text self))

end Effect

end CardGame
