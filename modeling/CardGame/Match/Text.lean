import CardGame.Match.Basic
import CardGame.Text.Join

/-!
The printed form of match expressions. Every function takes the text that stands for the card's own
name: the name itself on a card, or a placeholder in messages.
-/

namespace CardGame

/-- The placeholder for a card's own name. -/
def ownName : String := "NAME"

def Selector.text : Selector → String
  | sacrificed => "the sacrificed"
  | target => "target"

def Trait.text : Trait → String
  | color c => c.word
  | nonColor c => "non-" ++ c.word
  | kind k => k.text
  | nonKind k => "non-" ++ k.text
  | activated => "activated"
  | deactivated => "deactivated"
  | stats s => s.text

/-- Whether a trait says what kind of card is meant, which makes the word "card" superfluous. -/
def Trait.isKind : Trait → Bool
  | kind _ => true
  | _ => false

def Stat.word : Stat → String
  | damage => "damage"
  | health => "health"

def Direction.word : Direction → String
  | greater => "greater"
  | less => "less"

def Direction.leadText : Option Direction → String
  | some d => d.word ++ " than "
  | none => ""

def Direction.trailText : Option Direction → String
  | some d => " or " ++ d.word
  | none => ""

mutual

def Alternative.text (self : String) : Alternative → String
  | .named => self
  | .this => "this"
  | .filter f => CardFilter.text self f

/-- The printed form of a filter: designator, traits, "card" unless a kind is named, qualifiers. -/
def CardFilter.text (self : String) : CardFilter → String
  | ⟨selector, traits, without, having, targeting⟩ =>
    Text.join " "
      (selector.toList.map Selector.text
        ++ traits.map Trait.text
        ++ (if traits.any Trait.isKind then [] else ["card"])
        ++ without.toList.map (fun k => "without " ++ k.word)
        ++ (match having with
          | some h => ["with " ++ Having.text self h]
          | none => [])
        ++ targetingTexts self targeting)

def Having.text (self : String) : Having → String
  | .keywords ks => Text.enumerate "and" (ks.map Keyword.word)
  | .comparison stat c => stat.word ++ " " ++ Comparison.text self c

def Comparison.text (self : String) : Comparison → String
  | ⟨lead, count, trail⟩ =>
    Direction.leadText lead ++ Count.text self count ++ Direction.trailText trail

def Count.text (self : String) : Count → String
  | .numberOf m => "the number of " ++ Text.enumerate "or" (alternativeTexts self m)
  | .attribute owner stat =>
    Text.enumerate "or" (alternativeTexts self owner) ++ "'s " ++ stat.word
  | .value q => q.text

def alternativeTexts (self : String) : List Alternative → List String
  | [] => []
  | a :: rest => Alternative.text self a :: alternativeTexts self rest

def targetingTexts (self : String) : List (List Alternative) → List String
  | [] => []
  | m :: rest =>
    ("that targets " ++ Text.enumerate "or" (alternativeTexts self m)) :: targetingTexts self rest

end

def CardMatch.text (self : String) (m : CardMatch) : String :=
  Text.enumerate "or" (alternativeTexts self m)

def PlayerAlternative.text : PlayerAlternative → String
  | each => "each player"
  | you => "you"
  | opponent => "your opponent"
  | controller => "its controller"

def PlayerMatch.text (m : PlayerMatch) : String :=
  Text.enumerate "or" (m.map PlayerAlternative.text)

def AnyMatch.text (self : String) : AnyMatch → String
  | player m => PlayerMatch.text m
  | card m => CardMatch.text self m
  | anyTarget => "any target"

def Match.text (self : String) : Match → String
  | player m => PlayerMatch.text m
  | card m => CardMatch.text self m
  | any m => m.text self

def ZoneMatch.text (m : ZoneMatch) : String :=
  Text.join " " (m.map Zone.word)

theorem alternativeTexts_eq_map (self : String) (m : CardMatch) :
    alternativeTexts self m = m.map (Alternative.text self) := by
  induction m with
  | nil => rfl
  | cons a rest ih => simp [alternativeTexts, ih]

end CardGame
