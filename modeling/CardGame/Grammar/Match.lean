import CardGame.Effect.Trigger
import CardGame.Grammar.Parser

/-!
The grammar of numbers, costs, matches and triggers. Matches may stand inside matches, at most
thirty-two deep; the productions that hold one take the parser for it as a parameter.
-/

namespace CardGame.Grammar

open CardGame.Grammar.Parser

def quantity : Parser Quantity :=
  token [.one "number"] fun
    | .number n => some (.number n)
    | .word w => if w = "a" ∨ w = "an" then some .one else if w = "x" then some .x else none
    | _ => none

def stats : Parser Stats := do
  let power ← quantity
  mark '/'
  let health ← quantity
  return ⟨power, health⟩

def costSymbol : Parser CostSymbol := do
  mark '\x7b'
  let symbol ←
    (do return .essence (← wordAs "essence" Essence.ofSymbol?))
    <|> (do word "q"; return .activate)
    <|> (do word "t"; return .deactivate)
    <|> (do return .generic (← quantity))
  mark '\x7d'
  return symbol

def kindWord : Parser KindWord :=
  wordAs "card type" KindWord.ofWord?

def subtype : Parser CardSubtype :=
  wordAs "subtype" CardSubtype.ofWord?

def keyword : Parser Keyword :=
  wordAs "keyword" Keyword.ofWord?

def color : Parser Color :=
  wordAs "color" Color.ofWord?

def non : Parser Unit := do
  word "non"
  mark '-'

def trait : Parser Trait :=
  (do return .color (← color))
  <|> (do non; return .nonColor (← color))
  <|> (do return .kind (← kindWord))
  <|> (do non; return .nonKind (← kindWord))
  <|> (do word "activated"; return .activated)
  <|> (do word "deactivated"; return .deactivated)
  <|> (do return .stats (← stats))

def stat : Parser Stat :=
  wordAs "damage or health" fun
    | "damage" => some .damage
    | "health" => some .health
    | _ => none

def direction : Parser Direction :=
  wordAs "greater or less" fun
    | "greater" => some .greater
    | "less" => some .less
    | _ => none

def possessive : Parser Unit := do
  mark '\''
  word "s"

def count (inner : Parser CardMatch) : Parser Count :=
  (do words ["the", "number", "of"]; return .numberOf (← inner))
  <|> (do
    let owner ← inner
    possessive
    return .attribute owner (← stat))
  <|> (do return .value (← quantity))

def leading : Parser Direction := do
  let d ← direction
  oneOf ["then", "than"]
  return d

def trailing : Parser Direction := do
  word "or"
  direction

def comparison (inner : Parser CardMatch) : Parser Comparison := do
  let lead ← optional leading
  let n ← count inner
  let trail ← optional trailing
  return ⟨lead, n, trail⟩

def having (inner : Parser CardMatch) : Parser Having := do
  word "with"
  (do return .keywords (← enumeration ["and"] keyword))
    <|> (do
      let s ← stat
      return .comparison s (← comparison inner))

def selector : Parser Selector :=
  (do words ["the", "sacrificed"]; return .sacrificed)
  <|> (do word "target"; return .target)

def lacking : Parser Keyword := do
  word "without"
  keyword

/-- What an ability of the card has to target. -/
def targetingClause (inner : Parser CardMatch) : Parser CardMatch := do
  words ["that", "targets"]
  inner

def description (inner : Parser CardMatch) : Parser CardFilter := do
  let chosen ← optional selector
  let traits ← many trait
  let _ ← optional (oneOf ["card", "cards"])
  let without ← optional lacking
  let has ← optional (having inner)
  let targeting ← many (targetingClause inner)
  return ⟨chosen, traits, without, has, targeting⟩

/-- A filter. Something has to follow the article. -/
def cardFilter (inner : Parser CardMatch) : Parser CardFilter := do
  let _ ← optional (oneOf ["a", "an"])
  consuming "card description" (description inner)

def alternative (inner : Parser CardMatch) : Parser Alternative :=
  (do word ownName; return .named)
  <|> (do oneOf ["this", "it"]; return .this)
  <|> (do return .filter (← cardFilter inner))

def cardMatchWithin : (room : Nat) → Parser CardMatch
  | 0 => expected [.one "shallower nesting"]
  | room + 1 => enumeration ["and", "or"] (alternative (cardMatchWithin room))

def maxMatchDepth : Nat := 32

def cardMatch : Parser CardMatch :=
  cardMatchWithin maxMatchDepth

def playerAlternative : Parser PlayerAlternative :=
  (do words ["each", "player"]; return .each)
  <|> (do word "you"; return .you)
  <|> (do words ["your", "opponent"]; return .opponent)
  <|> (do words ["its", "controller"]; return .controller)

def playerMatch : Parser PlayerMatch :=
  enumeration ["and", "or"] playerAlternative

def anyMatch : Parser AnyMatch :=
  (do return .player (← playerMatch))
  <|> (do return .card (← cardMatch))
  <|> (do words ["any", "target"]; return .anyTarget)

def zone : Parser Zone := do
  let _ ← optional (oneOf ["your", "the"])
  wordAs "zone" Zone.ofWord?

def zoneMatch : Parser ZoneMatch :=
  many1 zone

def itsTurn (negated : Bool) : Parser Unit := do
  word "it"
  possessive
  if negated then word "not"
  words ["your", "turn"]

def playerAction : Parser PlayerAction := do
  if ← flag (oneOf ["sacrifice", "sacrifices"]) then
    return .sacrifice (← cardMatch)
  else
    oneOf ["draw", "draws"]
    words ["a", "card"]
    return .draw

def cardAction : Parser CardAction := do
  if ← flag (oneOf ["is", "are"]) then
    words ["put", "on", "the", "board"]
    return .entersBoard
  else
    oneOf ["leave", "leaves"]
    words ["the", "board"]
    return .leavesBoard

def condition : Parser Condition :=
  (do itsTurn false; return .yourTurn)
  <|> (do itsTurn true; return .notYourTurn)
  <|> (do
    let who ← playerMatch
    return .player who (← playerAction))
  <|> (do
    let which ← cardMatch
    return .card which (← cardAction))
  <|> (do
    let s ← stat
    word "is"
    return .numerical s (← comparison cardMatch))

def lifeChange (verbs : List String) : Parser PlayerMatch := do
  let m ← playerMatch
  oneOf verbs
  word "life"
  return m

def played : Parser CardMatch := do
  words ["you", "play"]
  cardMatch

def damaged : Parser CardMatch := do
  let m ← cardMatch
  words ["is", "dealt", "damage"]
  return m

def trigger : Parser Trigger := do
  oneOf ["when", "whenever"]
  (do return .play (← played))
    <|> (do return .gainLife (← lifeChange ["gain", "gains"]))
    <|> (do return .loseLife (← lifeChange ["lost", "loses", "lose"]))
    <|> (do return .dealtDamage (← damaged))
    <|> (do return .condition (← condition))

end CardGame.Grammar
