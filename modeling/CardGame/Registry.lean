import CardGame.Grammar.Card
import CardGame.Snapshot.Card
import CardGame.Text.Quoted

/-!
A registry of card templates and an index of their names. Names are compared in lower case, and a
card registered under a name that is taken replaces the earlier one in its place. Whole registries
are read from text, one card for each block of lines, and from snapshots.
-/

namespace CardGame

/-- Card templates in the order in which their names first appeared, and under each name in lower
case the place of its card. -/
structure Registry where
  cards : List Card
  places : List (String × Nat)
deriving DecidableEq

inductive RegistryNotice where
  | duplicateName (name : String)
  | unknownName (name : String)
deriving DecidableEq, Repr

def RegistryNotice.message : RegistryNotice → String
  | duplicateName name =>
    "duplicate card name " ++ Text.quoted name ++ ", replacing earlier definition"
  | unknownName name => "unknown card " ++ Text.quoted name ++ " in deck list"

/-- A block of text that is no card, by its number from zero. -/
structure LoadError where
  block : Nat
  error : Grammar.ParseError
deriving DecidableEq, Repr

namespace Registry

def empty : Registry :=
  ⟨[], []⟩

def get? (r : Registry) (name : String) : Option Card :=
  (r.places.lookup (Text.lowerCase name)).bind fun place => r.cards[place]?

/-- Add a card, with a warning when it replaces another. -/
def register (r : Registry) (c : Card) : Registry × List RegistryNotice :=
  let name := Text.lowerCase c.name
  match r.places.lookup name with
  | some place => ({ r with cards := r.cards.set place c }, [.duplicateName c.name])
  | none => (⟨r.cards ++ [c], r.places ++ [(name, r.cards.length)]⟩, [])

def registerAll (r : Registry) : List Card → Registry × List RegistryNotice
  | [] => (r, [])
  | c :: rest =>
    let (r, notices) := r.register c
    let (r, further) := r.registerAll rest
    (r, notices ++ further)

def ofCards (cards : List Card) : Registry × List RegistryNotice :=
  empty.registerAll cards

def readBlocks (number : Nat) : List String → List Card × List LoadError
  | [] => ([], [])
  | block :: rest =>
    let (cards, errors) := readBlocks (number + 1) rest
    match Grammar.parse block with
    | .ok c => (c :: cards, errors)
    | .error e => (cards, ⟨number, e⟩ :: errors)

structure Loaded where
  registry : Registry
  errors : List LoadError
  notices : List RegistryNotice

def load (text : String) : Loaded :=
  let (cards, errors) := readBlocks 0 (Text.blocks text)
  let (registry, notices) := ofCards cards
  ⟨registry, errors, notices⟩

def deck (r : Registry) (names : List String) : List Card :=
  names.filterMap r.get?

def deckNotices (r : Registry) (names : List String) : List RegistryNotice :=
  (names.filter fun name => (r.get? name).isNone).map .unknownName

def toBytes (r : Registry) : List UInt8 :=
  Snapshot.encodeCards r.cards

def ofBytes (bytes : List UInt8) : Except Snapshot.DecodeError (Registry × List RegistryNotice) :=
  (Snapshot.decodeCards bytes).map ofCards

end Registry

end CardGame
