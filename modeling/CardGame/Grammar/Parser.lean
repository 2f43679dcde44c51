import CardGame.Text.Token

/-!
Parsers over the tokens of a card, with ordered choice and backtracking. A parser that fails hands
no cursor on, so an alternative always starts where the failed one did. What would have been
accepted is noted at the furthest token that any alternative reached, and these notes survive
backtracking.
-/

namespace CardGame.Grammar

open Text (Token TokenKind)

/-- Something that would have been accepted at a token. -/
inductive Expectation where
  | word (w : String)
  | mark (c : Char)
  | one (what : String)
deriving DecidableEq, Repr

def Expectation.describe : Expectation → String
  | word w => "'" ++ w ++ "'"
  | mark c => "'" ++ c.toString ++ "'"
  | one what => what

/-- The furthest token at which something else was expected, and what would have been accepted
there, each once in the order in which it was tried. -/
structure Notes where
  furthest : Nat
  expected : List Expectation
deriving DecidableEq, Repr

namespace Notes

def start : Notes :=
  ⟨0, []⟩

/-- Note an expectation at a token. Those at earlier tokens than the furthest are forgotten. -/
def record (notes : Notes) (position : Nat) (e : Expectation) : Notes :=
  if notes.furthest < position then
    ⟨position, [e]⟩
  else if notes.furthest = position ∧ e ∉ notes.expected then
    ⟨position, notes.expected ++ [e]⟩
  else
    notes

theorem furthest_record (notes : Notes) (position : Nat) (e : Expectation) :
    (notes.record position e).furthest = max notes.furthest position := by
  unfold record
  split
  · simp only; omega
  · split
    · rename_i h; simp only [h.1]; omega
    · omega

theorem nodup_record {notes : Notes} (h : notes.expected.Nodup) (position : Nat) (e : Expectation) :
    (notes.record position e).expected.Nodup := by
  unfold record
  split
  · simp
  · split
    · rename_i fresh
      exact List.nodup_append.2 ⟨h, by simp, by
        intro a mem b single; simp only [List.mem_singleton] at single
        subst single; exact fun same => fresh.2 (same ▸ mem)⟩
    · exact h

end Notes

structure Cursor where
  position : Nat
  rest : List Token
deriving DecidableEq, Repr

/-- A parser reads on from a cursor or fails, and adds to the notes in either case. -/
abbrev Parser := StateT Cursor (OptionT (StateM Notes))

namespace Parser

variable {α : Type}

/-- The kind of the next token; beyond the last one it is the end of input. -/
def nextKind (cursor : Cursor) : TokenKind :=
  match cursor.rest with
  | [] => .endOfInput
  | token :: _ => token.kind

def expected (es : List Expectation) : Parser α := fun cursor notes =>
  (none, es.foldl (·.record cursor.position ·) notes)

def token (es : List Expectation) (accept : TokenKind → Option α) : Parser α := fun cursor =>
  match accept (nextKind cursor) with
  | some a => pure (a, ⟨cursor.position + 1, cursor.rest.tail⟩)
  | none => expected es cursor

def word (w : String) : Parser Unit :=
  token [.word w] fun kind => if kind = .word w then some () else none

def words (ws : List String) : Parser Unit :=
  ws.forM word

def oneOf (ws : List String) : Parser Unit :=
  token (ws.map .word) fun
    | .word w => if w ∈ ws then some () else none
    | _ => none

def mark (c : Char) : Parser Unit :=
  token [.mark c] fun kind => if kind = .mark c then some () else none

def wordAs (what : String) (meaning : String → Option α) : Parser α :=
  token [.one what] fun
    | .word w => meaning w
    | _ => none

def finish : Parser Unit := fun cursor =>
  if nextKind cursor = .endOfInput then pure ((), cursor) else expected [.one "end of card"] cursor

/-- Whether a parser succeeds; nothing is read when it fails. -/
def flag (p : Parser Unit) : Parser Bool :=
  (do p; return true) <|> pure false

/-- Repetitions of a parser and the cursor after them. They end with a failure or with a repetition
that reads nothing, whose value is dropped. -/
def repetitions (p : Parser α) (cursor : Cursor) (notes : Notes) : (List α × Cursor) × Notes :=
  match p cursor notes with
  | (some (a, next), notes) =>
    if next.rest.length < cursor.rest.length then
      let ((as, last), notes) := repetitions p next notes
      ((a :: as, last), notes)
    else
      (([], cursor), notes)
  | (none, notes) => (([], cursor), notes)
termination_by cursor.rest.length

def many (p : Parser α) : Parser (List α) := fun cursor notes =>
  let (result, notes) := repetitions p cursor notes
  (some result, notes)

def many1 (p : Parser α) : Parser (List α) := do
  let first ← p
  let rest ← many p
  return first :: rest

def consuming (what : String) (p : Parser α) : Parser α := do
  let start ← get
  let a ← p
  let stop ← get
  if stop.position = start.position then
    expected [.one what]
  return a

/-- The items of an enumeration after its first: those between commas, a conjunction, and the
last. -/
def furtherItems (conjunctions : List String) (item : Parser α) : Parser (List α) := do
  let middle ← many (do mark ','; item)
  oneOf conjunctions
  let last ← item
  return middle ++ [last]

/-- An enumeration: items with commas between them and a conjunction before the last. One item needs
neither. -/
def enumeration (conjunctions : List String) (item : Parser α) : Parser (List α) := do
  let first ← item
  let others ← optional (furtherItems conjunctions item)
  return first :: others.getD []

end Parser

end CardGame.Grammar
