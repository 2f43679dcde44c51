/-!
Places in a text. A span counts bytes of the UTF-8 form; a line and a column count from one, the
column in characters.
-/

namespace CardGame.Text

/-- The bytes from a start up to but not including an end. -/
structure Span where
  start : Nat
  stop : Nat
deriving DecidableEq, Repr

def Span.merge (a b : Span) : Span :=
  ⟨min a.start b.start, max a.stop b.stop⟩

structure Place where
  line : Nat
  column : Nat
deriving DecidableEq, Repr

/-- The place of a byte offset in a text that starts at the given place: the character that covers
the offset, or the end of the text. -/
def Place.advance (place : Place) : List Char → (offset : Nat) → Place
  | [], _ => place
  | c :: rest, offset =>
    if offset < c.utf8Size then
      place
    else if c = '\n' then
      advance ⟨place.line + 1, 1⟩ rest (offset - c.utf8Size)
    else
      advance ⟨place.line, place.column + 1⟩ rest (offset - c.utf8Size)

def placeAt (cs : List Char) (offset : Nat) : Place :=
  Place.advance ⟨1, 1⟩ cs offset

def byteSize (cs : List Char) : Nat :=
  cs.foldr (fun c size => c.utf8Size + size) 0

@[simp]
theorem byteSize_nil : byteSize [] = 0 :=
  rfl

@[simp]
theorem byteSize_cons (c : Char) (cs : List Char) : byteSize (c :: cs) = c.utf8Size + byteSize cs :=
  rfl

@[simp]
theorem byteSize_append (cs ds : List Char) : byteSize (cs ++ ds) = byteSize cs + byteSize ds := by
  induction cs with
  | nil => simp
  | cons c cs ih => rw [List.cons_append, byteSize_cons, ih, byteSize_cons, Nat.add_assoc]

/-- Text after a part is placed as if it began where the part ends. -/
theorem Place.advance_append (place : Place) (before after : List Char) (offset : Nat) :
    place.advance (before ++ after) (byteSize before + offset) =
      (place.advance before (byteSize before)).advance after offset := by
  induction before generalizing place with
  | nil => simp [advance]
  | cons c rest ih =>
    have notLt : ¬ c.utf8Size + byteSize rest + offset < c.utf8Size := by omega
    have notLt' : ¬ c.utf8Size + byteSize rest < c.utf8Size := by omega
    simp only [List.cons_append, advance, byteSize_cons, notLt, notLt', if_false,
      show c.utf8Size + byteSize rest + offset - c.utf8Size = byteSize rest + offset by omega,
      show c.utf8Size + byteSize rest - c.utf8Size = byteSize rest by omega]
    split <;> exact ih _

end CardGame.Text
