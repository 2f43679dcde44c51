import CardGame.Card.Basic
import CardGame.Text.Token

/-!
The grammar of card text as the specification prints it, one relation for each nonterminal: which
token kinds it derives, and the value that each derivation stands for. Nothing is tried or taken
back here and choices have no order; a value is put together from the values of the parts alone, and
each token belongs to one part.
-/

namespace CardGame

open Text (TokenKind)

namespace Grammar

/-- What a nonterminal derives: token kinds, and the value they stand for. -/
abbrev Phrases (α : Type) := List TokenKind → α → Prop

def said (ws : List String) : List TokenKind :=
  ws.map .word

inductive Maybe {α : Type} (D : Phrases α) : Phrases (Option α)
  | absent : Maybe D [] none
  | present {ks a} : D ks a → Maybe D ks (some a)

inductive Repeated {α : Type} (D : Phrases α) : Phrases (List α)
  | nil : Repeated D [] []
  | cons {ks more a as} : D ks a → Repeated D more as → Repeated D (ks ++ more) (a :: as)

inductive Series {α : Type} (D : Phrases α) : Phrases (List α)
  | mk {ks more a as} : D ks a → Repeated D more as → Series D (ks ++ more) (a :: as)

inductive WordFor {α : Type} (word : α → String) : Phrases α
  | mk (a : α) : WordFor word (said [word a]) a

inductive Optionally (ws : List String) : List TokenKind → Prop
  | absent : Optionally ws []
  | present {w} : w ∈ ws → Optionally ws [.word w]

inductive Flagged (ws : List String) : Phrases Bool
  | absent : Flagged ws [] false
  | present : Flagged ws (said ws) true

inductive AfterComma {α : Type} (D : Phrases α) : Phrases α
  | mk {ks a} : D ks a → AfterComma D ([.mark ','] ++ ks) a

/-- Enumerations, with the conjunctions that may stand before the last item:
`X (("," X)* (and|or) X)?`. -/
inductive Enumerated {α : Type} (conjunctions : List String) (D : Phrases α) : Phrases (List α)
  | one {ks a} : D ks a → Enumerated conjunctions D ks [a]
  | several {ks more last a as b w} :
      D ks a → Repeated (AfterComma D) more as → w ∈ conjunctions → D last b →
      Enumerated conjunctions D (ks ++ (more ++ (said [w] ++ last))) (a :: (as ++ [b]))

inductive Continued {α : Type} (D : Phrases α) : Phrases α
  | mk {link ks a} : Optionally ["then", "and"] link → D ks a →
      Continued D ([.mark ','] ++ (link ++ ks)) a

/-- Items one after another: `X ("," ("then"|"and")? X)*`. -/
inductive Joined {α : Type} (D : Phrases α) : Phrases (List α)
  | mk {ks more a as} : D ks a → Repeated (Continued D) more as → Joined D (ks ++ more) (a :: as)

inductive Punctuated {α : Type} (D : Phrases α) : Phrases α
  | plain {ks a} : D ks a → Punctuated D ks a
  | comma {ks a} : D ks a → Punctuated D (ks ++ [.mark ',']) a

end Grammar

open Grammar

/-! ### Numbers, costs and traits -/

inductive Quantity.Phrase : Phrases Quantity
  | int (n : Amount) : Quantity.Phrase [.number n] (.number n)
  | a : Quantity.Phrase (said ["a"]) .one
  | an : Quantity.Phrase (said ["an"]) .one
  | x : Quantity.Phrase (said ["x"]) .x

inductive Stats.Phrase : Phrases Stats
  | mk {ks more power health} : Quantity.Phrase ks power → Quantity.Phrase more health →
      Stats.Phrase (ks ++ ([.mark '/'] ++ more)) ⟨power, health⟩

inductive CostSymbol.InnerPhrase : Phrases CostSymbol
  | essence (e : Essence) : CostSymbol.InnerPhrase (said [e.symbol]) (.essence e)
  | activate : CostSymbol.InnerPhrase (said ["q"]) .activate
  | deactivate : CostSymbol.InnerPhrase (said ["t"]) .deactivate
  | generic {ks q} : Quantity.Phrase ks q → CostSymbol.InnerPhrase ks (.generic q)

/-- Cost symbols: `CostType = "\x7b" ( c|o|s|w | q | t | Quantity ) "\x7d"`. -/
inductive CostSymbol.Phrase : Phrases CostSymbol
  | mk {ks c} : CostSymbol.InnerPhrase ks c →
      CostSymbol.Phrase ([.mark '\x7b'] ++ (ks ++ [.mark '\x7d'])) c

/-- Traits: `Prefix = Color | non "-" Color | CardType | non "-" CardType | activated |
deactivated | Stats`. -/
inductive Trait.Phrase : Phrases Trait
  | color (c : Color) : Trait.Phrase (said [c.word]) (.color c)
  | nonColor (c : Color) :
      Trait.Phrase ([.word "non", .mark '-'] ++ said [c.word]) (.nonColor c)
  | kind (k : KindWord) : Trait.Phrase (said [k.text]) (.kind k)
  | nonKind (k : KindWord) :
      Trait.Phrase ([.word "non", .mark '-'] ++ said [k.text]) (.nonKind k)
  | activated : Trait.Phrase (said ["activated"]) .activated
  | deactivated : Trait.Phrase (said ["deactivated"]) .deactivated
  | stats {ks s} : Stats.Phrase ks s → Trait.Phrase ks (.stats s)

/-! ### Matches

A card match may hold card matches, so the nonterminals between two of them take what a card match
derives as a parameter. -/

inductive Selector.Phrase : Phrases Selector
  | sacrificed : Selector.Phrase (said ["the", "sacrificed"]) .sacrificed
  | target : Selector.Phrase (said ["target"]) .target

inductive Direction.LeadPhrase : Phrases Direction
  | mk {w} (d : Direction) : w ∈ ["then", "than"] → Direction.LeadPhrase (said [d.word, w]) d

inductive Direction.TrailPhrase : Phrases Direction
  | mk (d : Direction) : Direction.TrailPhrase (said ["or", d.word]) d

section

variable (M : Phrases CardMatch)

/-- Counts: `Count = the number of CardMatch | CardMatch "'" s Numerical | Quantity`. -/
inductive Count.Phrase : Phrases Count
  | numberOf {ks m} : M ks m → Count.Phrase (said ["the", "number", "of"] ++ ks) (.numberOf m)
  | attribute {ks m} (s : Stat) : M ks m →
      Count.Phrase (ks ++ ([.mark '\'', .word "s"] ++ said [s.word])) (.attribute m s)
  | value {ks q} : Quantity.Phrase ks q → Count.Phrase ks (.value q)

/-- Comparisons:
`Compare = (greater (then|than) | less (then|than))? Count (or greater | or less)?`. -/
inductive Comparison.Phrase : Phrases Comparison
  | mk {front ks back lead n trail} : Maybe Direction.LeadPhrase front lead →
      Count.Phrase M ks n → Maybe Direction.TrailPhrase back trail →
      Comparison.Phrase (front ++ (ks ++ back)) ⟨lead, n, trail⟩

/-- What a card has:
`With = with ( Keyword ("," Keyword)* and Keyword | Keyword | Numerical Compare )`. -/
inductive Having.Phrase : Phrases Having
  | keywords {ks listed} : Enumerated ["and"] (WordFor Keyword.word) ks listed →
      Having.Phrase (said ["with"] ++ ks) (.keywords listed)
  | comparison {ks c} (s : Stat) : Comparison.Phrase M ks c →
      Having.Phrase (said ["with", s.word] ++ ks) (.comparison s c)

inductive Keyword.LackingPhrase : Phrases Keyword
  | mk (k : Keyword) : Keyword.LackingPhrase (said ["without", k.word]) k

inductive CardMatch.TargetingPhrase : Phrases CardMatch
  | mk {ks m} : M ks m → CardMatch.TargetingPhrase (said ["that", "targets"] ++ ks) m

/-- Filters after their article:
`( the sacrificed | target )? Prefix* (card|cards)? ("without" Keyword)? With? Suffix*`. -/
inductive CardFilter.Phrase : Phrases CardFilter
  | mk {a b noun c d e selector traits without having targeting} :
      Maybe Selector.Phrase a selector → Repeated Trait.Phrase b traits →
      Optionally ["card", "cards"] noun → Maybe Keyword.LackingPhrase c without →
      Maybe (Having.Phrase M) d having →
      Repeated (CardMatch.TargetingPhrase M) e targeting →
      CardFilter.Phrase (a ++ (b ++ (noun ++ (c ++ (d ++ e)))))
        ⟨selector, traits, without, having, targeting⟩

/-- Alternatives of a card match: `CardTypeMatch = NAME | this | it | [a|an] …`, where the filter
after the article has to hold a token. -/
inductive Alternative.Phrase : Phrases Alternative
  | named : Alternative.Phrase (said [ownName]) .named
  | this {w} : w ∈ ["this", "it"] → Alternative.Phrase (said [w]) .this
  | filter {article ks f} : Optionally ["a", "an"] article → CardFilter.Phrase M ks f → ks ≠ [] →
      Alternative.Phrase (article ++ ks) (.filter f)

end

/-- Card matches: `CardMatch = CardTypeMatch (("," CardTypeMatch)* (and|or) CardTypeMatch)?`. -/
inductive CardMatch.Phrase : Phrases CardMatch
  | mk {ks m} : Enumerated ["and", "or"] (Alternative.Phrase CardMatch.Phrase) ks m →
      CardMatch.Phrase ks m

inductive PlayerAlternative.Phrase : Phrases PlayerAlternative
  | each : PlayerAlternative.Phrase (said ["each", "player"]) .each
  | you : PlayerAlternative.Phrase (said ["you"]) .you
  | opponent : PlayerAlternative.Phrase (said ["your", "opponent"]) .opponent
  | controller : PlayerAlternative.Phrase (said ["its", "controller"]) .controller

def PlayerMatch.Phrase : Phrases PlayerMatch :=
  Enumerated ["and", "or"] PlayerAlternative.Phrase

inductive AnyMatch.Phrase : Phrases AnyMatch
  | player {ks m} : PlayerMatch.Phrase ks m → AnyMatch.Phrase ks (.player m)
  | card {ks m} : CardMatch.Phrase ks m → AnyMatch.Phrase ks (.card m)
  | anyTarget : AnyMatch.Phrase (said ["any", "target"]) .anyTarget

inductive Zone.Phrase : Phrases Zone
  | mk {article} (z : Zone) : Optionally ["your", "the"] article →
      Zone.Phrase (article ++ [.word z.word]) z

/-- Several zones: `ZoneMatch = ((your|the)? (deck|hand|board|pile|stack))+`. -/
def ZoneMatch.Phrase : Phrases ZoneMatch :=
  Series Zone.Phrase

/-! ### Triggers -/

inductive PlayerAction.Phrase : Phrases PlayerAction
  | sacrifice {v ks m} : v ∈ ["sacrifice", "sacrifices"] → CardMatch.Phrase ks m →
      PlayerAction.Phrase (said [v] ++ ks) (.sacrifice m)
  | draw {v} : v ∈ ["draw", "draws"] → PlayerAction.Phrase (said [v, "a", "card"]) .draw

inductive CardAction.Phrase : Phrases CardAction
  | enters {w} : w ∈ ["is", "are"] →
      CardAction.Phrase (said [w, "put", "on", "the", "board"]) .entersBoard
  | leaves {v} : v ∈ ["leave", "leaves"] → CardAction.Phrase (said [v, "the", "board"]) .leavesBoard

/-- Conditions: `it "'" s your turn | it "'" s not your turn | PlayerMatch … | CardMatch … |
Numerical is Compare`. -/
inductive Condition.Phrase : Phrases Condition
  | yourTurn : Condition.Phrase
      (said ["it"] ++ ([.mark '\'', .word "s"] ++ said ["your", "turn"])) .yourTurn
  | notYourTurn : Condition.Phrase
      (said ["it"] ++ ([.mark '\'', .word "s"] ++ said ["not", "your", "turn"])) .notYourTurn
  | player {ks more who action} : PlayerMatch.Phrase ks who → PlayerAction.Phrase more action →
      Condition.Phrase (ks ++ more) (.player who action)
  | card {ks more which action} : CardMatch.Phrase ks which → CardAction.Phrase more action →
      Condition.Phrase (ks ++ more) (.card which action)
  | numerical {ks c} (s : Stat) : Comparison.Phrase CardMatch.Phrase ks c →
      Condition.Phrase (said [s.word, "is"] ++ ks) (.numerical s c)

inductive Trigger.BodyPhrase : Phrases Trigger
  | play {ks m} : CardMatch.Phrase ks m →
      Trigger.BodyPhrase (said ["you", "play"] ++ ks) (.play m)
  | gainLife {ks m v} : PlayerMatch.Phrase ks m → v ∈ ["gain", "gains"] →
      Trigger.BodyPhrase (ks ++ said [v, "life"]) (.gainLife m)
  | loseLife {ks m v} : PlayerMatch.Phrase ks m → v ∈ ["lost", "loses", "lose"] →
      Trigger.BodyPhrase (ks ++ said [v, "life"]) (.loseLife m)
  | dealtDamage {ks m} : CardMatch.Phrase ks m →
      Trigger.BodyPhrase (ks ++ said ["is", "dealt", "damage"]) (.dealtDamage m)
  | condition {ks c} : Condition.Phrase ks c → Trigger.BodyPhrase ks (.condition c)

/-- Triggers: `Trigger = (when|whenever) ( you play CardMatch | PlayerMatch (gain|gains) life |
PlayerMatch (lost|loses|lose) life | CardMatch is dealt damage | Condition )`. -/
inductive Trigger.Phrase : Phrases Trigger
  | mk {w ks t} : w ∈ ["when", "whenever"] → Trigger.BodyPhrase ks t →
      Trigger.Phrase (said [w] ++ ks) t

/-! ### Effects -/

inductive KindWord.CreatedPhrase : Phrases KindWord
  | mk {k : KindWord} : k.kind ≠ .token → KindWord.CreatedPhrase (said [k.text]) k

inductive PutPosition.Phrase : Phrases PutPosition
  | top : PutPosition.Phrase (said ["on", "top", "of"]) .top
  | bottom : PutPosition.Phrase (said ["on", "the", "bottom", "of"]) .bottom
  | into : PutPosition.Phrase (said ["into"]) .into

inductive CardMatch.IntoPhrase : Phrases CardMatch
  | mk {ks m} : CardMatch.Phrase ks m → CardMatch.IntoPhrase (ks ++ said ["into"]) m

/-- The sixteen effects of players, each with its verb first. -/
inductive PlayerEffect.Phrase : Phrases PlayerEffect
  | draw {v ks n w} : v ∈ ["draw", "draws"] → Quantity.Phrase ks n → w ∈ ["card", "cards"] →
      PlayerEffect.Phrase (said [v] ++ (ks ++ said [w])) (.draw n)
  | token {v a n b stats c kinds d subtypes w} : v ∈ ["create", "creates"] → Quantity.Phrase a n →
      Maybe Stats.Phrase b stats → Repeated KindWord.CreatedPhrase c kinds →
      Repeated (WordFor CardSubtype.word) d subtypes → w ∈ ["token", "tokens"] →
      PlayerEffect.Phrase (said [v] ++ (a ++ (b ++ (c ++ (d ++ said [w])))))
        (.token n stats kinds subtypes)
  | destroy {v ks m} : v ∈ ["destroy", "destroys"] → CardMatch.Phrase ks m →
      PlayerEffect.Phrase (said [v] ++ ks) (.destroy m)
  | add {v ks symbols} : v ∈ ["add", "adds"] → Series CostSymbol.Phrase ks symbols →
      PlayerEffect.Phrase (said [v] ++ ks) (.add symbols)
  | gainLife {v ks n} : v ∈ ["gain", "gains"] → Quantity.Phrase ks n →
      PlayerEffect.Phrase (said [v] ++ (ks ++ said ["life"])) (.gainLife n)
  | loseLife {v ks n} : v ∈ ["lose", "loses"] → Quantity.Phrase ks n →
      PlayerEffect.Phrase (said [v] ++ (ks ++ said ["life"])) (.loseLife n)
  | discard {v ks n more filter} : v ∈ ["discard", "discards"] → Quantity.Phrase ks n →
      Maybe CardMatch.Phrase more filter →
      PlayerEffect.Phrase (said [v] ++ (ks ++ more)) (.discard n filter)
  | shuffle {v ks objects more zone} : v ∈ ["shuffle", "shuffles"] →
      Maybe CardMatch.IntoPhrase ks objects → ZoneMatch.Phrase more zone →
      PlayerEffect.Phrase (said [v] ++ (ks ++ more)) (.shuffle objects zone)
  | extraTurn {v ks n w} : v ∈ ["take", "takes"] → Quantity.Phrase ks n → w ∈ ["turn", "turns"] →
      PlayerEffect.Phrase (said [v] ++ (ks ++ said ["extra", w])) (.extraTurn n)
  | look {v ks n w more zone} : v ∈ ["look", "looks"] → Quantity.Phrase ks n →
      w ∈ ["card", "cards"] → ZoneMatch.Phrase more zone →
      PlayerEffect.Phrase (said [v, "at", "the", "top"] ++ (ks ++ (said [w, "of"] ++ more)))
        (.look n zone)
  | put {v a objects b position c zone d anyOrder e randomOrder f deactivated} :
      v ∈ ["put", "puts"] → CardMatch.Phrase a objects → PutPosition.Phrase b position →
      ZoneMatch.Phrase c zone → Flagged ["in", "any", "order"] d anyOrder →
      Flagged ["in", "random", "order"] e randomOrder → Flagged ["deactivated"] f deactivated →
      PlayerEffect.Phrase (said [v] ++ (a ++ (b ++ (c ++ (d ++ (e ++ f))))))
        (.put objects position zone anyOrder randomOrder deactivated)
  | activate {v ks m} : v ∈ ["activate", "activates"] → CardMatch.Phrase ks m →
      PlayerEffect.Phrase (said [v] ++ ks) (.activate m)
  | deactivate {v ks m} : v ∈ ["deactivate", "deactivates"] → CardMatch.Phrase ks m →
      PlayerEffect.Phrase (said [v] ++ ks) (.deactivate m)
  | sacrifice {v ks m} : v ∈ ["sacrifice", "sacrifices"] → CardMatch.Phrase ks m →
      PlayerEffect.Phrase (said [v] ++ ks) (.sacrifice m)
  | payEssence {v ks symbols} : v ∈ ["spend", "spends"] → Series CostSymbol.Phrase ks symbols →
      PlayerEffect.Phrase (said [v] ++ ks) (.payEssence symbols)
  | payLife {v ks n} : v ∈ ["spend", "spends"] → Quantity.Phrase ks n →
      PlayerEffect.Phrase (said [v] ++ (ks ++ said ["life"])) (.payLife n)

inductive Sign.Phrase : Phrases Sign
  | plus : Sign.Phrase [.mark '+'] .plus
  | minus : Sign.Phrase [.mark '-'] .minus

inductive CardEffect.Phrase : Phrases CardEffect
  | damage {v ks n more m} : v ∈ ["deal", "deals"] → Quantity.Phrase ks n → AnyMatch.Phrase more m →
      CardEffect.Phrase (said [v] ++ (ks ++ (said ["damage", "to"] ++ more))) (.damage n m)
  | gets {v a powerSign b power c healthSign d health} : v ∈ ["get", "gets"] →
      Sign.Phrase a powerSign → Quantity.Phrase b power →
      Sign.Phrase c healthSign → Quantity.Phrase d health →
      CardEffect.Phrase (said [v] ++ (a ++ (b ++ ([.mark '/'] ++ (c ++ d)))))
        (.gets powerSign power healthSign health)

inductive Effect.Phrase : Phrases Effect
  | unnamed {ks effects} : Joined PlayerEffect.Phrase ks effects →
      Effect.Phrase ks (.player none false effects)
  | player {ks m may declines more effects} : PlayerMatch.Phrase ks m →
      Flagged ["may"] may declines → Joined PlayerEffect.Phrase more effects →
      Effect.Phrase (ks ++ (may ++ more)) (.player (some m) declines effects)
  | card {ks m more effects} : Maybe CardMatch.Phrase ks m →
      Joined CardEffect.Phrase more effects → Effect.Phrase (ks ++ more) (.card m effects)

/-! ### Abilities and cards -/

/-- Clauses up to a full stop: `Composed = Effect ("," ("then"|"and")? Effect)* "."`. -/
inductive Composed.Phrase : Phrases Composed
  | mk {ks effects} : Joined Effect.Phrase ks effects →
      Composed.Phrase (ks ++ [.mark '.']) ⟨effects⟩

inductive AbilityCost.Phrase : Phrases AbilityCost
  | symbol {ks c} : CostSymbol.Phrase ks c → AbilityCost.Phrase ks (.symbol c)
  | effect {ks e} : Effect.Phrase ks e → AbilityCost.Phrase ks (.effect e)

inductive Activated.Phrase : Phrases Activated
  | mk {ks costs more c} : Series AbilityCost.Phrase ks costs → Composed.Phrase more c →
      Activated.Phrase (ks ++ ([.mark ':'] ++ more)) ⟨costs, c⟩

inductive Triggered.Phrase : Phrases Triggered
  | mk {ks t more c} : Trigger.Phrase ks t → Composed.Phrase more c →
      Triggered.Phrase (ks ++ ([.mark ','] ++ more)) ⟨t, c⟩

/-- Sentences: `Ability = Keyword | Composed | Activated | Triggered`. -/
inductive Ability.Phrase : Phrases Ability
  | keyword (k : Keyword) : Ability.Phrase (said [k.word]) (.keyword k)
  | composed {ks c} : Composed.Phrase ks c → Ability.Phrase ks (.composed c)
  | activated {ks a} : Activated.Phrase ks a → Ability.Phrase ks (.activated a)
  | triggered {ks t} : Triggered.Phrase ks t → Ability.Phrase ks (.triggered t)

inductive CardSubtype.ListPhrase : Phrases (List CardSubtype)
  | absent : CardSubtype.ListPhrase [] []
  | dash {ks subtypes} : Repeated (WordFor CardSubtype.word) ks subtypes →
      CardSubtype.ListPhrase ([.mark '-'] ++ ks) subtypes

/-- Whole cards:
`Card = Ident CostType* CardType+ ("-" SubType*)? (Ability ","?)* Stats? EOF`. -/
inductive Card.Phrase : Phrases Card
  | mk {name a costs b kinds c subtypes d abilities e stats} :
      Repeated CostSymbol.Phrase a costs → Series (WordFor KindWord.text) b kinds →
      CardSubtype.ListPhrase c subtypes → Repeated (Punctuated Ability.Phrase) d abilities →
      Maybe Stats.Phrase e stats →
      Card.Phrase (said [name] ++ (a ++ (b ++ (c ++ (d ++ (e ++ [.endOfInput]))))))
        ⟨name, costs, kinds, subtypes, abilities, stats⟩

end CardGame
