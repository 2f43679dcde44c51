import CardGame.Object

/-!
Decisions of players. Whatever the rules leave to a player is put to the player's chooser as a
prompt with options. A chooser is any function of the prompts it has met so far; the ones here pass
on everything, take the first option, or read their replies from a script.
-/

namespace CardGame

inductive ChoiceFailure where
  | declined
  | disconnected
  | other (reason : String)
deriving DecidableEq, Repr

def ChoiceFailure.message : ChoiceFailure → String
  | declined => "choice declined"
  | disconnected => "player disconnected"
  | other reason => reason

inductive Prompt where
  | card (options : List CardId)
  | mode (options : List String)
  | field (options : List Nat)
  | ability (c : CardId) (options : List String)
  | target (options : List ObjectRef) (count : Nat)
  | discard (options : List CardId) (count : Nat)
deriving DecidableEq, Repr

namespace Prompt

def size : Prompt → Nat
  | card options => options.length
  | mode options => options.length
  | field options => options.length
  | ability _ options => options.length
  | target options _ => options.length
  | discard options _ => options.length

/-- How many options may be chosen, for the prompts that leave it open. -/
def limit? : Prompt → Option Nat
  | target _ count => some count
  | discard _ count => some count
  | _ => none

end Prompt

inductive Reply where
  | pick (index : Nat)
  | many (indices : List Nat)
  | skip
  | fail (f : ChoiceFailure)
deriving DecidableEq, Repr

namespace Reply

/-- A reply as an answer to a prompt: for one option the first of several counts, for several
options a single one is a list. -/
def forPrompt (r : Reply) (p : Prompt) : Reply :=
  match p.limit?, r with
  | none, many (i :: _) => pick i
  | none, many [] => skip
  | some _, pick i => many [i]
  | _, r => r

end Reply

inductive Encounter where
  | asked (p : Prompt)
  | shown (cards : List CardId)
deriving DecidableEq, Repr

/-- A way to decide: the reply to a prompt, given what was met before, the latest first. -/
abbrev Strategy := List Encounter → Prompt → Reply

namespace Strategy

def pass : Strategy := fun _ _ => .skip

def first : Strategy := fun _ p =>
  if p.size = 0 then
    .skip
  else
    match p.limit? with
    | none => .pick 0
    | some count => .many (List.range (min count p.size))

def questions (past : List Encounter) : Nat :=
  past.countP fun
    | .asked _ => true
    | .shown _ => false

/-- Reply as a script says, one entry for each question, and skip once it is used up. -/
def script (replies : List Reply) : Strategy := fun past _ =>
  (replies[questions past]?).getD .skip

end Strategy

/-- A strategy and everything its player met so far, the latest first. -/
structure Chooser where
  strategy : Strategy
  past : List Encounter

namespace Chooser

def ofStrategy (s : Strategy) : Chooser :=
  ⟨s, []⟩

def ask (c : Chooser) (p : Prompt) : Reply × Chooser :=
  ((c.strategy c.past p).forPrompt p, { c with past := .asked p :: c.past })

def reveal (c : Chooser) (cards : List CardId) : Chooser :=
  { c with past := .shown cards :: c.past }

def revealed (c : Chooser) : List CardId :=
  c.past.reverse.flatMap fun
    | .asked _ => []
    | .shown cards => cards

end Chooser

end CardGame
