import CardGame.Game.State

/-!
Putting questions to players. An answer out of range is noted and asked for again, a limited number
of times; declining, failing and running out of tries all mean that nothing is chosen. Nobody is
asked when there is nothing to choose from.
-/

namespace CardGame.Step

/-- Put a prompt to a player and record the reply; a seat that does not exist skips. -/
def ask (p : PlayerId) (prompt : Prompt) : Step Reply := do
  match (← get).choosers.get? p with
  | none => return .skip
  | some chooser =>
    let (reply, _) := chooser.ask prompt
    modify fun g =>
      { g with choosers := g.choosers.modify p fun c => (c.ask prompt).2 }.record
        (.asked p prompt reply)
    return reply

def chooseOneWithin (p : PlayerId) (prompt : Prompt) : (tries : Nat) → Step (Option Nat)
  | 0 => return none
  | tries + 1 => do
    match ← ask p prompt with
    | .pick i =>
      if i < prompt.size then
        return some i
      else
        notice (.answerOutOfRange p i prompt.size)
        chooseOneWithin p prompt tries
    | _ => return none

def maxTries : Step Nat := do
  return (← get).config.maxPromptRetries.toNat + 1

def chooseOne (p : PlayerId) (prompt : Prompt) : Step (Option Nat) := do
  if prompt.size = 0 then
    return none
  else
    chooseOneWithin p prompt (← maxTries)

/-- Ask for several options in at most so many tries. Repeated ones count once, and no more than the
given number are taken. -/
def chooseManyWithin (p : PlayerId) (prompt : Prompt) (count : Nat) :
    (tries : Nat) → Step (List Nat)
  | 0 => return []
  | tries + 1 => do
    match ← ask p prompt with
    | .many indices =>
      match indices.find? (prompt.size ≤ ·) with
      | some i =>
        notice (.answerOutOfRange p i prompt.size)
        chooseManyWithin p prompt count tries
      | none => return indices.eraseDups.take count
    | _ => return []

def chooseMany (p : PlayerId) (prompt : Prompt) (count : Nat) : Step (List Nat) := do
  if prompt.size = 0 ∨ count = 0 then
    return []
  else
    chooseManyWithin p prompt count (← maxTries)

def reveal (p : PlayerId) (cards : List CardId) : Step Unit := do
  if ((← get).choosers.get? p).isSome then
    modify fun g =>
      { g with choosers := g.choosers.modify p (·.reveal cards) }.record (.revealed p cards)

end CardGame.Step
