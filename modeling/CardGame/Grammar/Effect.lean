import CardGame.Effect.Ability
import CardGame.Grammar.Match

/-!
The grammar of effects and abilities. Verbs are accepted with and without the ending of the third
person, and effects follow each other after a comma.
-/

namespace CardGame.Grammar

open CardGame.Grammar.Parser

def verb (w : String) : Parser Unit :=
  oneOf [w, w ++ "s"]

def draw : Parser PlayerEffect := do
  verb "draw"
  let n ← quantity
  oneOf ["card", "cards"]
  return .draw n

/-- A kind other than token, which ends the kinds of a created token. -/
def tokenKind : Parser KindWord := do
  let k ← kindWord
  if k.kind = .token then failure
  return k

def createToken : Parser PlayerEffect := do
  verb "create"
  let n ← quantity
  let s ← optional stats
  let kinds ← many tokenKind
  let subtypes ← many subtype
  oneOf ["token", "tokens"]
  return .token n s kinds subtypes

def lifeAmount (verbParser : Parser Unit) : Parser Quantity := do
  verbParser
  let n ← quantity
  word "life"
  return n

def discard : Parser PlayerEffect := do
  verb "discard"
  let n ← quantity
  let filter ← optional cardMatch
  return .discard n filter

def shuffled : Parser CardMatch := do
  let m ← cardMatch
  word "into"
  return m

def shuffle : Parser PlayerEffect := do
  verb "shuffle"
  let objects ← optional shuffled
  let destination ← zoneMatch
  return .shuffle objects destination

def extraTurn : Parser PlayerEffect := do
  verb "take"
  let n ← quantity
  word "extra"
  oneOf ["turn", "turns"]
  return .extraTurn n

def look : Parser PlayerEffect := do
  verb "look"
  words ["at", "the", "top"]
  let n ← quantity
  oneOf ["card", "cards"]
  word "of"
  let destination ← zoneMatch
  return .look n destination

def putPosition : Parser PutPosition :=
  (do words ["on", "top", "of"]; return .top)
  <|> (do words ["on", "the", "bottom", "of"]; return .bottom)
  <|> (do word "into"; return .into)

def put : Parser PlayerEffect := do
  verb "put"
  let objects ← cardMatch
  let position ← putPosition
  let destination ← zoneMatch
  let anyOrder ← flag (words ["in", "any", "order"])
  let randomOrder ← flag (words ["in", "random", "order"])
  let deactivated ← flag (word "deactivated")
  return .put objects position destination anyOrder randomOrder deactivated

def objectsOf (w : String) : Parser CardMatch := do
  verb w
  cardMatch

def symbolsOf (w : String) : Parser (List CostSymbol) := do
  verb w
  many1 costSymbol

def playerEffect : Parser PlayerEffect :=
  draw
  <|> createToken
  <|> (do return .destroy (← objectsOf "destroy"))
  <|> (do return .add (← symbolsOf "add"))
  <|> (do return .gainLife (← lifeAmount (verb "gain")))
  <|> (do return .loseLife (← lifeAmount (verb "lose")))
  <|> discard
  <|> shuffle
  <|> extraTurn
  <|> look
  <|> put
  <|> (do return .activate (← objectsOf "activate"))
  <|> (do return .deactivate (← objectsOf "deactivate"))
  <|> (do return .sacrifice (← objectsOf "sacrifice"))
  <|> (do return .payEssence (← symbolsOf "spend"))
  <|> (do return .payLife (← lifeAmount (verb "spend")))

def damage : Parser CardEffect := do
  verb "deal"
  let n ← quantity
  words ["damage", "to"]
  let target ← anyMatch
  return .damage n target

def sign : Parser Sign :=
  (do mark '+'; return .plus)
  <|> (do mark '-'; return .minus)

def bonus : Parser CardEffect := do
  verb "get"
  let powerSign ← sign
  let power ← quantity
  mark '/'
  let healthSign ← sign
  let health ← quantity
  return .gets powerSign power healthSign health

def cardEffect : Parser CardEffect :=
  damage <|> bonus

def continuation : Parser Unit := do
  mark ','
  let _ ← optional (oneOf ["then", "and"])

def sequenceOf {α : Type} (item : Parser α) : Parser (List α) := do
  let first ← item
  let rest ← many (do continuation; item)
  return first :: rest

def actingPlayers : Parser (PlayerMatch × Bool) := do
  let m ← playerMatch
  let may ← flag (word "may")
  return (m, may)

def playerClause : Parser Effect := do
  let subject ← optional actingPlayers
  let effects ← sequenceOf playerEffect
  return .player (subject.map (·.1)) (subject.any (·.2)) effects

def cardClause : Parser Effect := do
  let subject ← optional cardMatch
  let effects ← sequenceOf cardEffect
  return .card subject effects

def effect : Parser Effect :=
  playerClause <|> cardClause

def composed : Parser Composed := do
  let effects ← sequenceOf effect
  mark '.'
  return ⟨effects⟩

def abilityCost : Parser AbilityCost :=
  (do return .symbol (← costSymbol))
  <|> (do return .effect (← effect))

def activated : Parser Activated := do
  let costs ← many1 abilityCost
  mark ':'
  let bought ← composed
  return ⟨costs, bought⟩

def triggered : Parser Triggered := do
  let cause ← trigger
  mark ','
  let caused ← composed
  return ⟨cause, caused⟩

def ability : Parser Ability :=
  (do return .keyword (← keyword))
  <|> (do return .composed (← composed))
  <|> (do return .activated (← activated))
  <|> (do return .triggered (← triggered))

end CardGame.Grammar
