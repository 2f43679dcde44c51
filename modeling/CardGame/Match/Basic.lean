import CardGame.Card.Symbol
import CardGame.Zone.Basic

/-!
Match expressions: which players and cards a clause refers to. A card match is a choice between
alternatives; an alternative is the card itself, the cards that a trigger bound, or a filter.
Filters compare against counts, and counts and filters hold further matches, so the types are
mutual.
-/

namespace CardGame

inductive Selector where
  /-- Cards sacrificed while paying for the use. -/
  | sacrificed
  /-- Chosen by the controller when the ability is played. -/
  | target
deriving DecidableEq, Repr

inductive Trait where
  | color (c : Color)
  | nonColor (c : Color)
  | kind (k : KindWord)
  | nonKind (k : KindWord)
  | activated
  | deactivated
  | stats (s : Stats)
deriving DecidableEq, Repr

/-- What a comparison reads: the power of a card, called damage, or its health. -/
inductive Stat where
  | damage
  | health
deriving DecidableEq, Repr

inductive Direction where
  | greater
  | less
deriving DecidableEq, Repr

mutual

inductive Alternative where
  /-- The card's own name: the source of the ability. -/
  | named
  /-- The cards bound by a trigger. -/
  | this
  | filter (f : CardFilter)

structure CardFilter where
  selector : Option Selector
  traits : List Trait
  without : Option Keyword
  having : Option Having
  /-- What an ability of the card has to target, one match for each clause. -/
  targeting : List (List Alternative)

inductive Having where
  | keywords (ks : List Keyword)
  | comparison (stat : Stat) (c : Comparison)

structure Comparison where
  lead : Option Direction
  count : Count
  trail : Option Direction

inductive Count where
  | numberOf (m : List Alternative)
  /-- A stat of the first card that matches. -/
  | attribute (owner : List Alternative) (stat : Stat)
  | value (q : Quantity)

end

/-- A card matches when one of the alternatives does. -/
abbrev CardMatch := List Alternative

mutual

def Alternative.decEq : (a b : Alternative) → Decidable (a = b)
  | .named, .named => isTrue rfl
  | .named, .this => isFalse nofun
  | .named, .filter _ => isFalse nofun
  | .this, .named => isFalse nofun
  | .this, .this => isTrue rfl
  | .this, .filter _ => isFalse nofun
  | .filter _, .named => isFalse nofun
  | .filter _, .this => isFalse nofun
  | .filter f, .filter g =>
    match CardFilter.decEq f g with
    | isTrue h => isTrue (h ▸ rfl)
    | isFalse h => isFalse fun same => h (Alternative.filter.inj same)

def CardFilter.decEq : (f g : CardFilter) → Decidable (f = g)
  | ⟨s, ts, w, h, ms⟩, ⟨s', ts', w', h', ms'⟩ =>
    match decEq s s', decEq ts ts', decEq w w', optionDecEq h h', matchesDecEq ms ms' with
    | isTrue a, isTrue b, isTrue c, isTrue d, isTrue e =>
      isTrue (by rw [a, b, c, d, e])
    | isFalse n, _, _, _, _ => isFalse fun same => n (CardFilter.mk.inj same).1
    | _, isFalse n, _, _, _ => isFalse fun same => n (CardFilter.mk.inj same).2.1
    | _, _, isFalse n, _, _ => isFalse fun same => n (CardFilter.mk.inj same).2.2.1
    | _, _, _, isFalse n, _ => isFalse fun same => n (CardFilter.mk.inj same).2.2.2.1
    | _, _, _, _, isFalse n => isFalse fun same => n (CardFilter.mk.inj same).2.2.2.2

def optionDecEq : (h k : Option Having) → Decidable (h = k)
  | none, none => isTrue rfl
  | none, some _ => isFalse nofun
  | some _, none => isFalse nofun
  | some h, some k =>
    match Having.decEq h k with
    | isTrue e => isTrue (e ▸ rfl)
    | isFalse n => isFalse fun same => n (Option.some.inj same)

def Having.decEq : (h k : Having) → Decidable (h = k)
  | .keywords ks, .keywords ls =>
    match decEq ks ls with
    | isTrue e => isTrue (e ▸ rfl)
    | isFalse n => isFalse fun same => n (Having.keywords.inj same)
  | .keywords _, .comparison _ _ => isFalse nofun
  | .comparison _ _, .keywords _ => isFalse nofun
  | .comparison s c, .comparison t d =>
    match decEq s t, Comparison.decEq c d with
    | isTrue a, isTrue b => isTrue (by rw [a, b])
    | isFalse n, _ => isFalse fun same => n (Having.comparison.inj same).1
    | _, isFalse n => isFalse fun same => n (Having.comparison.inj same).2

def Comparison.decEq : (c d : Comparison) → Decidable (c = d)
  | ⟨l, n, t⟩, ⟨l', n', t'⟩ =>
    match decEq l l', Count.decEq n n', decEq t t' with
    | isTrue a, isTrue b, isTrue c => isTrue (by rw [a, b, c])
    | isFalse n, _, _ => isFalse fun same => n (Comparison.mk.inj same).1
    | _, isFalse n, _ => isFalse fun same => n (Comparison.mk.inj same).2.1
    | _, _, isFalse n => isFalse fun same => n (Comparison.mk.inj same).2.2

def Count.decEq : (c d : Count) → Decidable (c = d)
  | .numberOf m, .numberOf n =>
    match matchDecEq m n with
    | isTrue e => isTrue (e ▸ rfl)
    | isFalse h => isFalse fun same => h (Count.numberOf.inj same)
  | .numberOf _, .attribute _ _ => isFalse nofun
  | .numberOf _, .value _ => isFalse nofun
  | .attribute _ _, .numberOf _ => isFalse nofun
  | .attribute m s, .attribute n t =>
    match matchDecEq m n, decEq s t with
    | isTrue a, isTrue b => isTrue (by rw [a, b])
    | isFalse h, _ => isFalse fun same => h (Count.attribute.inj same).1
    | _, isFalse h => isFalse fun same => h (Count.attribute.inj same).2
  | .attribute _ _, .value _ => isFalse nofun
  | .value _, .numberOf _ => isFalse nofun
  | .value _, .attribute _ _ => isFalse nofun
  | .value q, .value r =>
    match decEq q r with
    | isTrue e => isTrue (e ▸ rfl)
    | isFalse h => isFalse fun same => h (Count.value.inj same)

def matchDecEq : (m n : List Alternative) → Decidable (m = n)
  | [], [] => isTrue rfl
  | [], _ :: _ => isFalse nofun
  | _ :: _, [] => isFalse nofun
  | a :: as, b :: bs =>
    match Alternative.decEq a b, matchDecEq as bs with
    | isTrue h, isTrue k => isTrue (by rw [h, k])
    | isFalse n, _ => isFalse fun same => n (List.cons.inj same).1
    | _, isFalse n => isFalse fun same => n (List.cons.inj same).2

def matchesDecEq : (m n : List (List Alternative)) → Decidable (m = n)
  | [], [] => isTrue rfl
  | [], _ :: _ => isFalse nofun
  | _ :: _, [] => isFalse nofun
  | a :: as, b :: bs =>
    match matchDecEq a b, matchesDecEq as bs with
    | isTrue h, isTrue k => isTrue (by rw [h, k])
    | isFalse n, _ => isFalse fun same => n (List.cons.inj same).1
    | _, isFalse n => isFalse fun same => n (List.cons.inj same).2

end

instance : DecidableEq Alternative := Alternative.decEq
instance : DecidableEq CardFilter := CardFilter.decEq
instance : DecidableEq Having := Having.decEq
instance : DecidableEq Comparison := Comparison.decEq
instance : DecidableEq Count := Count.decEq

inductive PlayerAlternative where
  | each
  | you
  | opponent
  /-- The controller of a card bound by a trigger. -/
  | controller
deriving DecidableEq, Repr

abbrev PlayerMatch := List PlayerAlternative

/-- Players, cards, or one chosen player or card. -/
inductive AnyMatch where
  | player (m : PlayerMatch)
  | card (m : CardMatch)
  | anyTarget
deriving DecidableEq

abbrev ZoneMatch := List Zone

/-- The zone that cards are moved into: the first one named, or the pile. -/
def ZoneMatch.first (m : ZoneMatch) : Zone :=
  m.head?.getD .pile

inductive Match where
  | player (m : PlayerMatch)
  | card (m : CardMatch)
  | any (m : AnyMatch)
deriving DecidableEq

def Alternative.hasTarget : Alternative → Bool
  | .filter f => f.selector == some .target
  | _ => false

def CardMatch.hasTarget (m : CardMatch) : Bool :=
  m.any Alternative.hasTarget

/-- Whether a match of players or cards asks for a chosen target; players alone are never chosen. -/
def AnyMatch.hasTarget : AnyMatch → Bool
  | .player _ => false
  | .card m => CardMatch.hasTarget m
  | .anyTarget => true

def Match.hasTarget : Match → Bool
  | .player _ => false
  | .card m => CardMatch.hasTarget m
  | .any m => m.hasTarget

def CardMatch.isPlural (m : CardMatch) : Bool :=
  m.any fun
    | .filter f => f.traits.any fun
      | .kind k => k.plural
      | _ => false
    | _ => false

/-- Whether a value stands in the relation of a comparison to its evaluated count. A direction after
the count makes the comparison inclusive, and so does the lack of one before it. -/
def Comparison.holds (c : Comparison) (value count : Amount) : Bool :=
  let inclusive := c.lead.isNone || c.trail.isSome
  match c.lead.or c.trail with
  | none => value == count
  | some .greater => if inclusive then count ≤ value else count < value
  | some .less => if inclusive then value ≤ count else value < count

end CardGame
