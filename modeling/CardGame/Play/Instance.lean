import CardGame.Card.Basic

/-!
Cards in a game: a template with an owner, a controller, a zone, and what happened to it. A card
that was played as a source is flipped; it counts only as a source, without its printed abilities,
and gives one essence ability for each color of its cost.
-/

namespace CardGame

namespace Activated

def forDeactivating (e : Effect) : Activated :=
  ⟨[.symbol .deactivate], ⟨[e]⟩⟩

def attack : Activated :=
  forDeactivating (.card none [.attack])

def giving (e : Essence) : Activated :=
  forDeactivating (.player none false [.add [.essence e]])

end Activated

/-- A bonus that lasts until the card leaves the board. -/
structure Modifier where
  power : Amount
  health : Amount
deriving DecidableEq, Repr

structure CardInstance where
  id : CardId
  card : Card
  /-- The player whose deck the card started in. -/
  owner : PlayerId
  controller : PlayerId
  zone : Zone
  slot : Option Nat
  /-- Ready to be deactivated for a cost. -/
  activated : Bool
  /-- Played as a source. -/
  flipped : Bool
  damage : Amount
  modifiers : List Modifier
deriving DecidableEq

namespace CardInstance

def fresh (id : CardId) (card : Card) (owner : PlayerId) (zone : Zone) : CardInstance :=
  ⟨id, card, owner, owner, zone, none, false, false, 0, []⟩

/-- A printed stat; x and missing stats count as zero. -/
def printed (c : CardInstance) (part : Stats → Quantity) : Amount :=
  (c.card.stats.map fun s => (part s).value 0).getD 0

def power (c : CardInstance) : Amount :=
  c.modifiers.foldl (fun total m => Amount.plus total m.power) (c.printed Stats.power)

/-- Printed health with every bonus, less the damage. -/
def health (c : CardInstance) : Amount :=
  Amount.minus (c.modifiers.foldl (fun total m => Amount.plus total m.health)
    (c.printed Stats.health)) c.damage

def stat (c : CardInstance) : Stat → Amount
  | .damage => c.power
  | .health => c.health

/-- A card with stats whose health is used up. -/
def isDead (c : CardInstance) : Bool :=
  c.card.stats.isSome && c.health ≤ 0

def hasKind (c : CardInstance) (k : CardKind) : Bool :=
  if c.flipped then k == .source else c.card.hasKind k

def hasKeyword (c : CardInstance) (k : Keyword) : Bool :=
  !c.flipped && c.card.hasKeyword k

/-- Whether the card takes a slot of the board once cast. -/
def isPermanent (c : CardInstance) : Bool :=
  !c.card.isSpell

def hasTrait (c : CardInstance) : Trait → Bool
  | .color color => c.card.hasColor color
  | .nonColor color => !c.card.hasColor color
  | .kind k => c.hasKind k.kind
  | .nonKind k => !c.hasKind k.kind
  | .activated => c.activated
  | .deactivated => !c.activated
  | .stats s => c.card.stats == some s

def triggered (c : CardInstance) : List Triggered :=
  if c.flipped then [] else c.card.triggered

/-- Every ability that may be used from the board: printed ones, the attack of a unit, and one for
each color of a source. -/
def activatedAbilities (c : CardInstance) : List Activated :=
  (if c.flipped then [] else c.card.activated)
    ++ (if c.hasKind .unit then [.attack] else [])
    ++ (if c.hasKind .source then c.card.colors.map .giving else [])

/-- The card without everything that is tied to the board. -/
def leaveBoard (c : CardInstance) : CardInstance :=
  { c with slot := none, damage := 0, modifiers := [], flipped := false, activated := false }

end CardInstance

end CardGame
