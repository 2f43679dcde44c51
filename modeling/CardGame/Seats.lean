import CardGame.Object

/-!
One value for each seat of a table. A table has between 1 and 255 seats, and changing a seat's value
keeps their number.
-/

namespace CardGame

def maxSeats : Nat := 255

/-- One value for each seat, in seat order. -/
structure Seats (α : Type) where
  entries : List α
  nonempty : 0 < entries.length
  atMost : entries.length ≤ maxSeats

namespace Seats

variable {α β : Type}

/-- The values of a table, unless it has no seats or too many. -/
def ofList? (entries : List α) : Option (Seats α) :=
  if h : 0 < entries.length ∧ entries.length ≤ maxSeats then
    some ⟨entries, h.1, h.2⟩
  else
    none

def ofFn? (count : Nat) (f : PlayerId → α) : Option (Seats α) :=
  ofList? ((PlayerId.all count).map f)

def count (seats : Seats α) : Nat :=
  seats.entries.length

def get? (seats : Seats α) (p : PlayerId) : Option α :=
  seats.entries[p.seat]?

def modify (seats : Seats α) (p : PlayerId) (f : α → α) : Seats α where
  entries := seats.entries.modify p.seat f
  nonempty := by simpa using seats.nonempty
  atMost := by simpa using seats.atMost

def mapWithSeat (seats : Seats α) (f : PlayerId → α → β) : Seats β where
  entries := seats.entries.mapIdx fun i a => f ⟨i⟩ a
  nonempty := by simpa using seats.nonempty
  atMost := by simpa using seats.atMost

def map (seats : Seats α) (f : α → β) : Seats β :=
  seats.mapWithSeat fun _ => f

def toList (seats : Seats α) : List (PlayerId × α) :=
  seats.entries.mapIdx fun i a => (⟨i⟩, a)

def ids (seats : Seats α) : List PlayerId :=
  PlayerId.all seats.count

theorem count_modify (seats : Seats α) (p : PlayerId) (f : α → α) :
    (seats.modify p f).count = seats.count := by
  simp [count, modify]

theorem get?_modify_self (seats : Seats α) (p : PlayerId) (f : α → α) :
    (seats.modify p f).get? p = (seats.get? p).map f := by
  simp [get?, modify]

theorem get?_modify_of_ne (seats : Seats α) {p q : PlayerId} (h : p ≠ q) (f : α → α) :
    (seats.modify p f).get? q = seats.get? q := by
  have : p.seat ≠ q.seat := fun same => h (by cases p; cases q; simp_all)
  simp [get?, modify, this]

end Seats

end CardGame
