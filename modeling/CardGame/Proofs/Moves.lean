import CardGame.Grammar.Match

/-!
The books of a reading and the moves that change them. Beside its cursor and its notes a reading
counts how many matches it is in, and every step that it takes is one of five moves. Whatever moves
are made, the notes tell what was recorded: the furthest token of all, and what was expected there.
-/

namespace CardGame.Grammar

open CardGame.Grammar.Parser
open Text (Token TokenKind)

/-! ### Descriptions of expectations -/

/-- An expectation that no other one is described like: words are letters, marks are none, and what
has a name is not in quotes. -/
def Expectation.isPlain : Expectation → Bool
  | word w => w.toList.all Char.isAlpha
  | mark c => !c.isAlpha
  | one what => what.toList.head? != some '\''

def Expectation.ofDescription : List Char → Expectation
  | '\'' :: quoted =>
    match quoted.dropLast with
    | [c] => if c.isAlpha then .word (String.ofList [c]) else .mark c
    | cs => .word (String.ofList cs)
  | text => .one (String.ofList text)

theorem Expectation.ofDescription_describe {e : Expectation} (plain : e.isPlain) :
    ofDescription e.describe.toList = e := by
  cases e with
  | word w =>
    have quoted : (word w).describe.toList = '\'' :: (w.toList ++ ['\'']) := by simp [describe]
    simp only [quoted, ofDescription, List.dropLast_concat]
    split
    next c single =>
      have letter : c.isAlpha := by simpa [isPlain, single] using plain
      rw [if_pos letter, ← single, String.ofList_toList]
    next => rw [String.ofList_toList]
  | mark c =>
    have quoted : (mark c).describe.toList = ['\'', c, '\''] := by simp [describe]
    have letter : c.isAlpha = false := by simpa [isPlain] using plain
    simp [quoted, ofDescription, letter]
  | one what =>
    have unquoted : what.toList.head? ≠ some '\'' := by simpa [isPlain] using plain
    show ofDescription what.toList = one what
    unfold ofDescription
    split
    next rest same => exact absurd (congrArg List.head? same) unquoted
    next => rw [String.ofList_toList]

theorem Expectation.describe_injective {a b : Expectation} (plain : a.isPlain) (other : b.isPlain)
    (same : a.describe = b.describe) : a = b := by
  rw [← ofDescription_describe plain, same, ofDescription_describe other]

/-! ### What notes tell -/

def furthestOf (log : List (Nat × Expectation)) : Nat :=
  (log.map Prod.fst).foldr max 0

theorem furthestOf_append (log more : List (Nat × Expectation)) :
    furthestOf (log ++ more) = max (furthestOf log) (furthestOf more) := by
  induction log with
  | nil => simp [furthestOf]
  | cons r log ih =>
    simp only [furthestOf, List.cons_append, List.map_cons, List.foldr_cons] at ih ⊢
    rw [ih, Nat.max_assoc]

@[simp] theorem furthestOf_nil : furthestOf [] = 0 := rfl

theorem furthestOf_single (position : Nat) (e : Expectation) :
    furthestOf [(position, e)] = position :=
  Nat.max_zero position

theorem le_furthestOf {log : List (Nat × Expectation)} {position : Nat} {e : Expectation}
    (mem : (position, e) ∈ log) : position ≤ furthestOf log := by
  obtain ⟨before, after, rfl⟩ := List.append_of_mem mem
  rw [← List.singleton_append, furthestOf_append, furthestOf_append, furthestOf_single]
  omega

theorem furthestOf_mem {log : List (Nat × Expectation)} (some : log ≠ []) :
    ∃ e, (furthestOf log, e) ∈ log := by
  induction log with
  | nil => exact absurd rfl some
  | cons r log ih =>
    rw [← List.singleton_append, furthestOf_append]
    obtain ⟨position, e⟩ := r
    rw [furthestOf_single]
    obtain first | later := Nat.le_total (furthestOf log) position
    · exact ⟨e, by simp [Nat.max_eq_left first]⟩
    · by_cases last : log = []
      · exact ⟨e, by simp [last]⟩
      · obtain ⟨e', mem⟩ := ih last
        exact ⟨e', by simp [Nat.max_eq_right later, mem]⟩

/-- Notes that hold of the expectations recorded so far those at the furthest token, each once. -/
structure Notes.Tell (notes : Notes) (log : List (Nat × Expectation)) : Prop where
  furthest : notes.furthest = furthestOf log
  mem_iff : ∀ e, e ∈ notes.expected ↔ (notes.furthest, e) ∈ log
  nodup : notes.expected.Nodup

theorem Notes.tell_start : Notes.start.Tell [] :=
  ⟨rfl, by simp [Notes.start], List.nodup_nil⟩

theorem Notes.Tell.record {notes : Notes} {log : List (Nat × Expectation)} (h : notes.Tell log)
    (position : Nat) (e : Expectation) :
    (notes.record position e).Tell (log ++ [(position, e)]) where
  furthest := by rw [furthest_record, h.furthest, furthestOf_append, furthestOf_single]
  nodup := nodup_record h.nodup position e
  mem_iff e' := by
    have own := h.mem_iff e'
    have earlier : (position, e') ∈ log → position ≤ notes.furthest := fun mem =>
      h.furthest ▸ le_furthestOf mem
    unfold Notes.record
    split
    · simp only [List.mem_singleton, List.mem_append, Prod.mk.injEq, true_and]
      exact ⟨.inr, fun | .inl mem => by have := earlier mem; omega | .inr same => same⟩
    · split
      next here =>
        obtain ⟨rfl, -⟩ := here
        simp [own]
      next there =>
        rw [own, List.mem_append, List.mem_singleton, Prod.mk.injEq]
        refine ⟨.inl, fun | .inl mem => mem | .inr ⟨here, same⟩ => ?_⟩
        -- Nothing was added, so the expectation was among those noted at this token.
        subst same
        exact own.1 (Decidable.byContradiction fun fresh => there ⟨here, fresh⟩)

/-! ### Books -/

structure Books where
  cursor : Cursor
  depth : Nat
  notes : Notes
deriving DecidableEq, Repr

/-- One step of a reading. -/
inductive Move where
  | note (e : Expectation)
  | read
  | enter
  | leave
  | back (start : Cursor) (depth : Nat)
deriving DecidableEq, Repr

namespace Books

def after (books : Books) : Move → Books
  | .note e => { books with notes := books.notes.record books.cursor.position e }
  | .read => { books with cursor := ⟨books.cursor.position + 1, books.cursor.rest.tail⟩ }
  | .enter => { books with depth := books.depth + 1 }
  | .leave => { books with depth := books.depth - 1 }
  | .back start depth => { books with cursor := start, depth }

def afterAll (books : Books) (moves : List Move) : Books :=
  moves.foldl after books

@[simp] theorem afterAll_nil (books : Books) : books.afterAll [] = books := rfl

@[simp] theorem afterAll_cons (books : Books) (move : Move) (moves : List Move) :
    books.afterAll (move :: moves) = (books.after move).afterAll moves := rfl

@[simp] theorem afterAll_append (books : Books) (moves more : List Move) :
    books.afterAll (moves ++ more) = (books.afterAll moves).afterAll more :=
  List.foldl_append

def entry (books : Books) : Move → List (Nat × Expectation)
  | .note e => [(books.cursor.position, e)]
  | .read | .enter | .leave | .back _ _ => []

def recorded (books : Books) : List Move → List (Nat × Expectation)
  | [] => []
  | move :: moves => books.entry move ++ (books.after move).recorded moves

theorem recorded_append (books : Books) (moves more : List Move) :
    books.recorded (moves ++ more) = books.recorded moves ++
      (books.afterAll moves).recorded more := by
  induction moves generalizing books with
  | nil => rfl
  | cons move moves ih => simp [recorded, ih]

end Books

/-! ### Books in order -/

def endOf (tokens : List Token) : Nat :=
  tokens.findIdx (·.kind = .endOfInput)

theorem nextKind_endOf (tokens : List Token) :
    nextKind ⟨endOf tokens, tokens.drop (endOf tokens)⟩ = .endOfInput := by
  by_cases closed : endOf tokens < tokens.length
  · rw [List.drop_eq_getElem_cons closed]
    exact of_decide_eq_true (List.findIdx_getElem (w := closed))
  · rw [List.drop_of_length_le (Nat.le_of_not_lt closed)]
    rfl

structure Cursor.Within (tokens : List Token) (cursor : Cursor) : Prop where
  rest : cursor.rest = tokens.drop cursor.position
  position_le : cursor.position ≤ endOf tokens

theorem Cursor.within_start (tokens : List Token) : (⟨0, tokens⟩ : Cursor).Within tokens :=
  ⟨rfl, Nat.zero_le _⟩

theorem Cursor.Within.next {tokens : List Token} {cursor : Cursor} (h : cursor.Within tokens)
    (goesOn : nextKind cursor ≠ .endOfInput) :
    Cursor.Within tokens ⟨cursor.position + 1, cursor.rest.tail⟩ where
  rest := by rw [h.rest, List.tail_drop]
  position_le := by
    refine Nat.lt_of_le_of_ne h.position_le fun same => goesOn ?_
    have here : cursor = ⟨endOf tokens, tokens.drop (endOf tokens)⟩ := by
      rw [← same, ← h.rest]
    rw [here, nextKind_endOf]

/-- Books in order, after some expectations were recorded: the cursor is not behind the end of
input, matches are not nested too deep, and the notes tell what was recorded. -/
structure Books.InOrder (tokens : List Token) (log : List (Nat × Expectation)) (books : Books) :
    Prop where
  within : books.cursor.Within tokens
  depth_le : books.depth ≤ maxMatchDepth
  tell : books.notes.Tell log
  logged : ∀ r ∈ log, r.1 ≤ endOf tokens ∧ r.2.isPlain

/-- Moves that may be made: no token is read behind the end of input, no match is entered too deep
or left that was not entered, and an attempt goes back to a place in the tokens and as deep as it
is. -/
def Books.Allows (tokens : List Token) (books : Books) : Move → Prop
  | .note e => e.isPlain
  | .read => nextKind books.cursor ≠ .endOfInput
  | .enter => books.depth < maxMatchDepth
  | .leave => 0 < books.depth
  | .back start depth => start.Within tokens ∧ depth = books.depth

def Books.AllowsAll (tokens : List Token) (books : Books) : List Move → Prop
  | [] => True
  | move :: moves => books.Allows tokens move ∧ (books.after move).AllowsAll tokens moves

namespace Books

variable {tokens : List Token} {log : List (Nat × Expectation)} {books : Books}

theorem allowsAll_append {moves more : List Move} :
    books.AllowsAll tokens (moves ++ more) ↔
      books.AllowsAll tokens moves ∧ (books.afterAll moves).AllowsAll tokens more := by
  induction moves generalizing books with
  | nil => simp [AllowsAll]
  | cons move moves ih => simp [AllowsAll, ih, and_assoc]

theorem within_after (within : books.cursor.Within tokens) {move : Move}
    (allowed : books.Allows tokens move) : (books.after move).cursor.Within tokens := by
  cases move with
  | read => exact within.next allowed
  | back start depth => exact allowed.1
  | note | enter | leave => exact within

theorem within_afterAll (within : books.cursor.Within tokens) {moves : List Move}
    (allowed : books.AllowsAll tokens moves) : (books.afterAll moves).cursor.Within tokens := by
  induction moves generalizing books with
  | nil => exact within
  | cons move moves ih => exact ih (within_after within allowed.1) allowed.2

theorem InOrder.after (h : books.InOrder tokens log) {move : Move}
    (allowed : books.Allows tokens move) :
    (books.after move).InOrder tokens (log ++ books.entry move) := by
  have within := within_after h.within allowed
  obtain ⟨stands, depth_le, tell, logged⟩ := h
  cases move with
  | note e =>
    refine ⟨within, depth_le, tell.record _ e, fun r mem => ?_⟩
    obtain before | here := List.mem_append.1 mem
    · exact logged r before
    · rw [List.mem_singleton.1 here]
      exact ⟨stands.position_le, allowed⟩
  | read =>
    rw [entry, List.append_nil]
    exact ⟨within, depth_le, tell, logged⟩
  | enter =>
    rw [entry, List.append_nil]
    exact ⟨within, allowed, tell, logged⟩
  | leave =>
    rw [entry, List.append_nil]
    exact ⟨within, Nat.le_trans (Nat.sub_le _ _) depth_le, tell, logged⟩
  | back start depth =>
    rw [entry, List.append_nil]
    exact ⟨within, allowed.2 ▸ depth_le, tell, logged⟩

theorem InOrder.afterAll (h : books.InOrder tokens log) {moves : List Move}
    (allowed : books.AllowsAll tokens moves) :
    (books.afterAll moves).InOrder tokens (log ++ books.recorded moves) := by
  induction moves generalizing books log with
  | nil => simpa [recorded] using h
  | cons move moves ih =>
    rw [recorded, ← List.append_assoc]
    exact ih (h.after allowed.1) allowed.2

theorem furthest_le_afterAll (books : Books) (moves : List Move) :
    books.notes.furthest ≤ (books.afterAll moves).notes.furthest := by
  induction moves generalizing books with
  | nil => exact Nat.le_refl _
  | cons move moves ih =>
    refine Nat.le_trans ?_ (ih (books.after move))
    cases move with
    | note e =>
      simp only [after, Notes.furthest_record]
      exact Nat.le_max_left _ _
    | read | enter | leave | back => exact Nat.le_refl _

end Books

end CardGame.Grammar
