import CardGame.Text.Blank

/-!
Lines of a text, and the blocks of lines between blank ones.
-/

namespace CardGame.Text

def firstLine : List Char → List Char × Option (List Char)
  | [] => ([], none)
  | '\n' :: rest => ([], some rest)
  | c :: rest =>
    let (line, after) := firstLine rest
    (c :: line, after)

def dropReturn (line : List Char) : List Char :=
  if line.getLast? = some '\r' then line.dropLast else line

theorem firstLine_rest_length {cs line rest : List Char} (h : firstLine cs = (line, some rest)) :
    rest.length < cs.length := by
  induction cs generalizing line with
  | nil => simp [firstLine] at h
  | cons c cs ih =>
    by_cases newline : c = '\n'
    · subst newline
      simp only [firstLine, Prod.mk.injEq, Option.some.injEq] at h
      simp [h.2]
    · rw [firstLine] at h
      · simp only [Prod.mk.injEq] at h
        have := @ih (firstLine cs).1 (Prod.ext rfl h.2)
        simp only [List.length_cons]
        omega
      · exact newline

/-- The lines of a text. A line end after the last line starts no further one, and a carriage return
before a line end is not part of the line. -/
def linesOf (cs : List Char) : List (List Char) :=
  match _split : firstLine cs with
  | (line, some rest) => dropReturn line :: linesOf rest
  | ([], none) => []
  | (line, none) => [line]
termination_by cs.length
decreasing_by exact firstLine_rest_length (by assumption)

def joinLines : List (List Char) → List Char
  | [] => []
  | [line] => line
  | line :: rest => line ++ '\n' :: joinLines rest

def isBlankLine (line : List Char) : Bool :=
  line.all isBlank

/-- The longest runs of lines that are not blank, given the run that is being read. -/
def runs (current : List (List Char)) : List (List Char) → List (List (List Char))
  | [] => if current.isEmpty then [] else [current]
  | line :: rest =>
    if isBlankLine line then
      if current.isEmpty then runs [] rest else current :: runs [] rest
    else
      runs (current ++ [line]) rest

def blocks (text : String) : List String :=
  (runs [] (linesOf text.toList)).map fun block => String.ofList (joinLines block)

end CardGame.Text
