import CardGame.Game.State

/-!
What match expressions mean in a game. They are evaluated for a use of an ability: "you" is its
controller, the card's own name its source, "this" the objects a trigger bound, and "target" what
has been chosen. While candidates are listed every object passes as a target; once bound, only the
chosen ones do.
-/

namespace CardGame

inductive MatchMode where
  /-- Only chosen targets are targets. -/
  | bound
  /-- Every object may be a target. -/
  | candidates
deriving DecidableEq, Repr

namespace Game

/-- The cards in one zone of a player, as far as searches see them. Of the stack these are the cards
the player owns that a waiting use comes from. -/
def cardsIn (g : Game) (p : PlayerId) (player : Player) : Zone → List CardId
  | .board => player.board.cards
  | .hand => player.hand.cards
  | .pile => player.pile.cards
  | .deck => player.deck.cards
  | .stack =>
    (g.stack.entries.map AbilityUse.source).filter fun c => (g.card? c).any (·.owner == p)

/-- The cards in some zones, or in all of them, player by player and for each in search order. -/
def searchedCards (g : Game) (zones : Option ZoneMatch) : List CardId :=
  g.players.toList.flatMap fun (p, player) =>
    (Zone.searchOrder.filter fun z => zones.all (·.contains z)).flatMap (g.cardsIn p player)

mutual

def alternativeHolds (g : Game) (u : AbilityUse) (mode : MatchMode) : Alternative → CardId → Bool
  | .named, c => c == u.source
  | .this, c => if u.this.isEmpty then c == u.source else u.this.contains (.card c)
  | .filter f, c =>
    match g.card? c with
    | some i => filterHolds g u mode f c i
    | none => false

def filterHolds (g : Game) (u : AbilityUse) (mode : MatchMode) :
    CardFilter → CardId → CardInstance → Bool
  | ⟨chosen, traits, without, has, targeting⟩, c, i =>
    (match chosen with
      | none => true
      | some .sacrificed => u.sacrificed.contains c
      | some .target => mode == .candidates || u.targets (.card c))
    && traits.all i.hasTrait
    && !without.any i.hasKeyword
    && (match has with
      | none => true
      | some h => havingHolds g u mode h i)
    && targetingHolds g u mode targeting c

def havingHolds (g : Game) (u : AbilityUse) (mode : MatchMode) : Having → CardInstance → Bool
  | .keywords ks, i => ks.all i.hasKeyword
  | .comparison s c, i => comparisonHolds g u mode c (i.stat s)

def comparisonHolds (g : Game) (u : AbilityUse) (mode : MatchMode) : Comparison → Amount → Bool
  | ⟨lead, n, trail⟩, value =>
    Comparison.holds ⟨lead, n, trail⟩ value (countValue g u mode n)

/-- The value of a count; a stat of no card is zero. -/
def countValue (g : Game) (u : AbilityUse) (mode : MatchMode) : Count → Amount
  | .numberOf m =>
    Int64.ofNat ((g.searchedCards none).filter (cardHolds g u mode m)).eraseDups.length
  | .attribute owner s =>
    match ((g.searchedCards none).find? (cardHolds g u mode owner)).bind g.card? with
    | some i => i.stat s
    | none => 0
  | .value q => q.value u.x

def cardHolds (g : Game) (u : AbilityUse) (mode : MatchMode) : List Alternative → CardId → Bool
  | [], _ => false
  | a :: rest, c => alternativeHolds g u mode a c || cardHolds g u mode rest c

def targetingHolds (g : Game) (u : AbilityUse) (mode : MatchMode) :
    List (List Alternative) → CardId → Bool
  | [], _ => true
  | m :: rest, c =>
    (g.stack.sourcedBy c).any (fun entry =>
      entry.targeting.any fun o => o.card?.any (cardHolds g u mode m))
    && targetingHolds g u mode rest c

end

/-- The controllers of the bound cards, or of the source when no card is bound. -/
def controllersOfThis (g : Game) (u : AbilityUse) : List PlayerId :=
  let bound := u.this.filterMap ObjectRef.card?
  ((if bound.isEmpty then [u.source] else bound).filterMap g.card?).map (·.controller)

def playerHolds (g : Game) (u : AbilityUse) (m : PlayerMatch) (p : PlayerId) : Bool :=
  m.any fun
    | .each => true
    | .you => p == u.controller
    | .opponent => p != u.controller
    | .controller => (g.controllersOfThis u).contains p

def anyHolds (g : Game) (u : AbilityUse) (mode : MatchMode) (m : AnyMatch) (o : ObjectRef) : Bool :=
  match m with
  | .player m => o.player?.any (g.playerHolds u m)
  | .card m => o.card?.any (g.cardHolds u mode m)
  | .anyTarget => mode == .candidates || u.targets o

def holds (g : Game) (u : AbilityUse) (mode : MatchMode) (m : Match) (o : ObjectRef) : Bool :=
  match m with
  | .player m => o.player?.any (g.playerHolds u m)
  | .card m => o.card?.any (g.cardHolds u mode m)
  | .any m => g.anyHolds u mode m o

/-- Every object that is meant by a match: players in seat order, then cards in search order, each
once. A match of players alone finds no cards. -/
def objectsOf (g : Game) (u : AbilityUse) (m : Match) (zones : Option ZoneMatch)
    (mode : MatchMode) :
    List ObjectRef :=
  let players := g.players.ids.map ObjectRef.player
  let cards := match m with
    | .player _ => []
    | _ => (g.searchedCards zones).map ObjectRef.card
  players.filter (g.holds u mode m) ++ (cards.filter (g.holds u mode m)).eraseDups

/-- The objects of a match, no more than a limit when there is one; without a match, the controller
alone. -/
def query (g : Game) (u : AbilityUse) (m : Option Match) (zones : Option ZoneMatch)
    (limit : Option Nat) (mode : MatchMode) : List ObjectRef :=
  match m, limit with
  | none, _ => [.player u.controller]
  | some m, none => g.objectsOf u m zones mode
  | some m, some n => (g.objectsOf u m zones mode).take n

end Game

end CardGame
