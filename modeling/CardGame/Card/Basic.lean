import CardGame.Effect.Ability

/-!
Card templates: what a printed card says. Everything that changes during a game belongs to a card in
a game, not to its template.
-/

namespace CardGame

structure Card where
  name : String
  costs : List CostSymbol
  kinds : List KindWord
  subtypes : List CardSubtype
  abilities : List Ability
  stats : Option Stats
deriving DecidableEq

namespace Card

def blank (name : String) : Card :=
  ⟨name, [], [], [], [], none⟩

def withCost (c : Card) (symbol : CostSymbol) : Card :=
  { c with costs := c.costs ++ [symbol] }

def withKind (c : Card) (kind : KindWord) : Card :=
  { c with kinds := c.kinds ++ [kind] }

def withSubtype (c : Card) (s : CardSubtype) : Card :=
  { c with subtypes := c.subtypes ++ [s] }

def withAbility (c : Card) (a : Ability) : Card :=
  { c with abilities := c.abilities ++ [a] }

def withStats (c : Card) (s : Stats) : Card :=
  { c with stats := some s }

/-- A blank card of the same name, given everything on this one piece by piece. -/
def rebuilt (c : Card) : Card :=
  let costed := c.costs.foldl withCost (blank c.name)
  let typed := c.subtypes.foldl withSubtype (c.kinds.foldl withKind costed)
  let able := c.abilities.foldl withAbility typed
  c.stats.elim able able.withStats

def hasKind (c : Card) (k : CardKind) : Bool :=
  c.kinds.any (·.kind == k)

def hasKeyword (c : Card) (k : Keyword) : Bool :=
  c.abilities.contains (.keyword k)

/-- The essences in the cost, each once, in printed order. -/
def colors (c : Card) : List Essence :=
  (c.costs.filterMap fun
    | .essence e => some e
    | _ => none).eraseDups

/-- Whether the card has a color; it is wild without any colored cost. -/
def hasColor (c : Card) : Color → Bool
  | .colored e => c.costs.contains (.essence e)
  | .wild => c.colors.isEmpty

/-- A spell goes to the pile when it resolves; every other card stays on the board. -/
def isSpell (c : Card) : Bool :=
  c.hasKind .spell

def activated (c : Card) : List Activated :=
  c.abilities.filterMap fun
    | .activated a => some a
    | _ => none

def triggered (c : Card) : List Triggered :=
  c.abilities.filterMap fun
    | .triggered t => some t
    | _ => none

def text (c : Card) : String :=
  let head := c.name ++ if c.costs.isEmpty then "" else " " ++
    Text.join "" (c.costs.map CostSymbol.text)
  let line := Text.join " " (c.kinds.map KindWord.text)
    ++ if c.subtypes.isEmpty then "" else " - " ++ Text.join " " (c.subtypes.map CardSubtype.word)
  Text.join "\n"
    ([head, line] ++ c.abilities.map (Ability.text c.name) ++ c.stats.toList.map Stats.text)

theorem foldl_withCost (c : Card) (costs : List CostSymbol) :
    costs.foldl withCost c = { c with costs := c.costs ++ costs } := by
  induction costs generalizing c with
  | nil => simp
  | cons _ _ ih => simp [ih, withCost]

theorem foldl_withKind (c : Card) (kinds : List KindWord) :
    kinds.foldl withKind c = { c with kinds := c.kinds ++ kinds } := by
  induction kinds generalizing c with
  | nil => simp
  | cons _ _ ih => simp [ih, withKind]

theorem foldl_withSubtype (c : Card) (subtypes : List CardSubtype) :
    subtypes.foldl withSubtype c = { c with subtypes := c.subtypes ++ subtypes } := by
  induction subtypes generalizing c with
  | nil => simp
  | cons _ _ ih => simp [ih, withSubtype]

theorem foldl_withAbility (c : Card) (abilities : List Ability) :
    abilities.foldl withAbility c = { c with abilities := c.abilities ++ abilities } := by
  induction abilities generalizing c with
  | nil => simp
  | cons _ _ ih => simp [ih, withAbility]

theorem rebuilt_eq (c : Card) : c.rebuilt = c := by
  obtain ⟨name, costs, kinds, subtypes, abilities, stats⟩ := c
  cases stats <;>
    simp [rebuilt, blank, withStats, foldl_withCost, foldl_withKind, foldl_withSubtype,
      foldl_withAbility]

end Card

end CardGame
