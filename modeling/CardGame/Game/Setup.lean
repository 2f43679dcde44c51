import CardGame.Game.Turn

/-!
Starting a game: the decks are laid out in order, the first card on top, and may be shuffled, each
in an order of its own that does not depend on the other seats.
-/

namespace CardGame

structure Entrant where
  deck : List Card
  strategy : Strategy

namespace Game

def layOut (g : Game) (owner : PlayerId) (template : Card) : Game :=
  let (c, g) := Step.addCard owner template .deck g
  g.modifyPlayer owner fun p => { p with deck := p.deck.insert c .bottom }

def create (config : RulesConfig) (entrants : List Entrant) : Except EngineError Game :=
  match Seats.ofList? entrants with
  | none => .error (.playerCount entrants.length)
  | some seats =>
    let bare : Game :=
      { config := config
        players := seats.map fun _ => Player.initial config
        choosers := seats.map fun e => Chooser.ofStrategy e.strategy
        cards := #[]
        stack := .initial seats.count
        turn := .initial
        resolving := none
        observers := .empty
        random := .ofSeed config.seed
        eventDepth := 0
        nextUse := 0
        chronicle := #[] }
    .ok (seats.toList.foldl (fun g (owner, e) => e.deck.foldl (fun g c => g.layOut owner c) g) bare)

/-- Shuffle every deck, each from a stream of its own. -/
def shuffleDecks (g : Game) : Game :=
  { g with
    players := g.players.mapWithSeat fun p s =>
      { s with deck := (s.deck.shuffle (g.random.forContext ("deck-" ++ p.text))).1 } }

def observe (g : Game) (kind : EventKind) : HandlerId × Game :=
  let (h, observers) := g.observers.register kind
  (h, { g with observers := observers })

def stopObserving (g : Game) (h : HandlerId) : Bool × Game :=
  let (found, observers) := g.observers.remove h
  (found, { g with observers := observers })

end Game

end CardGame
