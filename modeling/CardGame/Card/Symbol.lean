import CardGame.Amount

/-!
The vocabulary printed on cards: numbers, essence and colors, cost symbols, kinds, subtypes,
keywords and stats. Each has one word or symbol, and reading that word gives the value back.
-/

namespace CardGame

/-- A printed number: a literal, "a" or "an" for one, or x. -/
inductive Quantity where
  | number (n : Amount)
  | one
  | x
deriving DecidableEq, Repr

namespace Quantity

def value (q : Quantity) (x : Amount) : Amount :=
  match q with
  | number n => n
  | one => 1
  | .x => x

def text : Quantity → String
  | number n => toString n.toInt
  | one => "a"
  | x => "x"

end Quantity

inductive Essence where
  | cup
  | coin
  | sword
  | wand
deriving DecidableEq, Repr

namespace Essence

def all : List Essence :=
  [cup, coin, sword, wand]

def symbol : Essence → String
  | cup => "c"
  | coin => "o"
  | sword => "s"
  | wand => "w"

def ofSymbol? (s : String) : Option Essence :=
  all.find? (·.symbol == s)

def word : Essence → String
  | cup => "cup"
  | coin => "coin"
  | sword => "sword"
  | wand => "wand"

theorem ofSymbol?_symbol (e : Essence) : ofSymbol? e.symbol = some e := by
  cases e <;> decide

end Essence

/-- A color that a match may ask for: that of an essence, or wild for no colored cost. -/
inductive Color where
  | colored (e : Essence)
  | wild
deriving DecidableEq, Repr

namespace Color

def all : List Color :=
  Essence.all.map colored ++ [wild]

def word : Color → String
  | colored e => e.word
  | wild => "wild"

def ofWord? (w : String) : Option Color :=
  all.find? (·.word == w)

def essence? : Color → Option Essence
  | colored e => some e
  | wild => none

theorem ofWord?_word (c : Color) : ofWord? c.word = some c := by
  rcases c with e | _
  · cases e <;> decide
  · decide

end Color

inductive CostSymbol where
  | essence (e : Essence)
  /-- Activate the card; it has to be deactivated. -/
  | activate
  /-- Deactivate the card; it has to be activated. -/
  | deactivate
  | generic (q : Quantity)
deriving DecidableEq, Repr

def CostSymbol.text (c : CostSymbol) : String :=
  let inner := match c with
    | essence e => e.symbol
    | activate => "q"
    | deactivate => "t"
    | generic q => q.text
  "\x7b" ++ inner ++ "\x7d"

inductive CardKind where
  | unit
  | item
  | source
  | spell
  | token
deriving DecidableEq, Repr

namespace CardKind

def all : List CardKind :=
  [unit, item, source, spell, token]

def word : CardKind → String
  | unit => "unit"
  | item => "item"
  | source => "source"
  | spell => "spell"
  | token => "token"

end CardKind

/-- A kind as written, in the singular or the plural. -/
structure KindWord where
  kind : CardKind
  plural : Bool
deriving DecidableEq, Repr

namespace KindWord

def all : List KindWord :=
  CardKind.all.flatMap fun k => [⟨k, false⟩, ⟨k, true⟩]

def text (k : KindWord) : String :=
  if k.plural then k.kind.word ++ "s" else k.kind.word

def ofWord? (w : String) : Option KindWord :=
  all.find? (·.text == w)

theorem ofWord?_text (k : KindWord) : ofWord? k.text = some k := by
  rcases k with ⟨k, plural⟩
  cases k <;> cases plural <;> decide

end KindWord

inductive CardSubtype where
  | human
  | dwarf
  | elf
  | orc
  | gnome
  | undead
  | demon
  | dragon
  | golem
  | spirit
  | soldier
  | wizard
  | warrior
  | merchant
  | cleric
  | rogue
  | beast
deriving DecidableEq, Repr

namespace CardSubtype

def all : List CardSubtype :=
  [human, dwarf, elf, orc, gnome, undead, demon, dragon, golem, spirit, soldier, wizard, warrior,
    merchant, cleric, rogue, beast]

def word : CardSubtype → String
  | human => "human"
  | dwarf => "dwarf"
  | elf => "elf"
  | orc => "orc"
  | gnome => "gnome"
  | undead => "undead"
  | demon => "demon"
  | dragon => "dragon"
  | golem => "golem"
  | spirit => "spirit"
  | soldier => "soldier"
  | wizard => "wizard"
  | warrior => "warrior"
  | merchant => "merchant"
  | cleric => "cleric"
  | rogue => "rogue"
  | beast => "beast"

def ofWord? (w : String) : Option CardSubtype :=
  all.find? (·.word == w)

theorem ofWord?_word (s : CardSubtype) : ofWord? s.word = some s := by
  cases s <;> decide

end CardSubtype

inductive Keyword where
  | fly
  | siege
  | poison
  /-- May be cast whenever its owner holds priority. -/
  | ambush
deriving DecidableEq, Repr

namespace Keyword

def all : List Keyword :=
  [fly, siege, poison, ambush]

def word : Keyword → String
  | fly => "fly"
  | siege => "siege"
  | poison => "poison"
  | ambush => "ambush"

def ofWord? (w : String) : Option Keyword :=
  all.find? (·.word == w)

theorem ofWord?_word (k : Keyword) : ofWord? k.word = some k := by
  cases k <;> decide

end Keyword

structure Stats where
  power : Quantity
  health : Quantity
deriving DecidableEq, Repr

def Stats.text (s : Stats) : String :=
  s.power.text ++ "/" ++ s.health.text

end CardGame
