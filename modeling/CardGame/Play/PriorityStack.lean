import CardGame.Play.Use

/-!
The stack and the right to act. Uses resolve last in, first out. Passing hands priority to the next
seat; once every seat has passed in a row the caller resolves the top use, or ends the phase when
there is none. Playing and acting start the count of passes afresh.
-/

namespace CardGame

structure PriorityStack where
  /-- From the bottom to the top. -/
  entries : List AbilityUse
  priority : PlayerId
  /-- Passes since the last action or resolution. -/
  passes : Nat
  seats : Nat
  active : PlayerId
deriving DecidableEq

namespace PriorityStack

def initial (seats : Nat) : PriorityStack :=
  ⟨[], ⟨0⟩, 0, seats, ⟨0⟩⟩

def isEmpty (s : PriorityStack) : Bool :=
  s.entries.isEmpty

def peek? (s : PriorityStack) : Option AbilityUse :=
  s.entries.getLast?

def sourcedBy (s : PriorityStack) (c : CardId) : List AbilityUse :=
  s.entries.filter (·.source == c)

/-- Put a use on top. The holder keeps priority. -/
def push (s : PriorityStack) (u : AbilityUse) : PriorityStack :=
  { s with entries := s.entries ++ [u], passes := 0 }

def pop (s : PriorityStack) : Option AbilityUse × PriorityStack :=
  (s.entries.getLast?, { s with entries := s.entries.dropLast })

/-- An action that puts no use on the stack. -/
def acted (s : PriorityStack) : PriorityStack :=
  { s with passes := 0 }

/-- The holder passes. True once every seat has passed in a row; priority then stays where it is. -/
def pass (s : PriorityStack) : Bool × PriorityStack :=
  if s.seats ≤ s.passes + 1 then
    (true, { s with passes := s.passes + 1 })
  else
    (false, { s with passes := s.passes + 1, priority := s.priority.next s.seats })

def resetPriority (s : PriorityStack) (active : PlayerId) : PriorityStack :=
  { s with active := active, priority := active, passes := 0 }

def clear (s : PriorityStack) : PriorityStack :=
  { s with entries := [], passes := 0 }

theorem pop_push (s : PriorityStack) (u : AbilityUse) :
    (s.push u).pop = (some u, s.acted) := by
  simp [push, pop, acted]

@[simp] theorem entries_pass (s : PriorityStack) : s.pass.2.entries = s.entries := by
  unfold pass
  split <;> rfl

@[simp] theorem seats_pass (s : PriorityStack) : s.pass.2.seats = s.seats := by
  unfold pass
  split <;> rfl

end PriorityStack

end CardGame
