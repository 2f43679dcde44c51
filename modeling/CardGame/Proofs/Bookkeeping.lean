import CardGame.Proofs.Productions
import Mathlib.Data.List.Nodup

/-!
The books of every production are kept: it returns as deep as it began, never stands behind the end
of input, and its notes tell what was recorded so far. So the error of a card that cannot be read
points at the furthest token at which anything was expected, and lists just that.
-/

namespace CardGame.Grammar

open CardGame.Grammar.Parser
open Text (Token TokenKind)

/-! ### Failures that say something -/

namespace Production

variable {depth : Nat} {α β : Type} {p q : Parser α} {f : α → Parser β}

def Speaks (production : Production depth p) : Prop :=
  ∀ books, (production.run books).2 = none → books.recorded (production.run books).1 ≠ []

theorem speaks_token {e : Expectation} {es : List Expectation} {accept : TokenKind → Option α}
    (stops : accept .endOfInput = none) (plain : ∀ e' ∈ e :: es, e'.isPlain) :
    Speaks (.token stops plain : Production depth _) := by
  intro books failed
  rw [run] at failed ⊢
  split at failed
  next => cases failed
  next => exact List.cons_ne_nil _ _

theorem speaks_finish : Speaks (.finish : Production depth _) := by
  intro books failed
  rw [run] at failed ⊢
  split at failed
  next => cases failed
  next goesOn =>
    rw [if_neg goesOn]
    exact List.cons_ne_nil _ _

theorem speaks_value (a : α) : Speaks (.value a : Production depth _) :=
  fun _ => nofun

theorem speaks_many (item : Production depth p) : Speaks (.many item) :=
  fun _ => nofun

theorem speaks_bind {first : Production depth p} {next : ∀ a, Production depth (f a)}
    (own : first.Speaks) (later : ∀ a, (next a).Speaks) : Speaks (.bind first next) := by
  intro books failed
  have recorded := own books
  rw [run] at failed ⊢
  generalize first.run books = made at failed recorded ⊢
  obtain ⟨moves, _ | a⟩ := made
  · exact recorded rfl
  · rw [Books.recorded_append]
    exact List.append_ne_nil_of_right_ne_nil _ (later a _ failed)

theorem speaks_orElse {first : Production depth p} {second : Production depth q}
    (later : second.Speaks) : Speaks (.orElse first second) := by
  intro books failed
  rw [run] at failed ⊢
  generalize first.run books = made at failed ⊢
  obtain ⟨moves, _ | a⟩ := made
  · rw [Books.recorded_append]
    exact List.append_ne_nil_of_right_ne_nil _ (later _ failed)
  · cases failed

theorem speaks_ite {c : Prop} [Decidable c] {yes : Production depth p} {no : Production depth q}
    (own : yes.Speaks) (other : no.Speaks) :
    Speaks (.ite yes no : Production depth (if c then p else q)) := by
  intro books
  rw [run]
  split
  next => exact own books
  next => exact other books

theorem speaks_last {g : α → β} {item : Production depth p} (own : item.Speaks) :
    Speaks (.last item : Production depth (p >>= fun a => Pure.pure (g a))) :=
  speaks_bind own fun _ => speaks_value _

theorem speaks_attempt (item : Production depth p) : item.attempt.Speaks :=
  speaks_orElse (speaks_value none)

theorem speaks_flag {r : Parser Unit} (item : Production depth r) : item.flag.Speaks :=
  speaks_orElse (speaks_value false)

theorem speaks_card : card.production.Speaks :=
  speaks_bind (speaks_token rfl _) fun _ => speaks_bind (speaks_many _) fun _ =>
    speaks_bind (speaks_bind (speaks_token rfl _) fun _ => speaks_last (speaks_many _)) fun _ =>
      speaks_bind (speaks_bind (speaks_flag _) fun _ => speaks_ite (speaks_many _) (speaks_value _))
        fun _ => speaks_bind (speaks_many _) fun _ => speaks_bind (speaks_attempt _) fun _ =>
          speaks_last speaks_finish

end Production

/-! ### The books of a parser -/

def Books.start (tokens : List Token) : Books :=
  ⟨⟨0, tokens⟩, 0, .start⟩

theorem Books.inOrder_start (tokens : List Token) : (start tokens).InOrder tokens [] :=
  ⟨Cursor.within_start tokens, Nat.zero_le _, Notes.tell_start, by simp⟩

theorem Production.moves_attempt {depth : Nat} {α : Type} {p : Parser α}
    (production : Production depth p) {books : Books} (failed : production.result books = none) :
    production.attempt.moves books = production.moves books ++
      [.back books.cursor books.depth] := by
  have first : (production.mapped some).run books = (production.moves books, none) := by
    show (bind production fun a => value (some a)).run books = _
    rw [run, show production.run books = (production.moves books, none) from Prod.ext rfl failed]
  show (run (.orElse (production.mapped some) (.value none)) books).1 = _
  rw [run, first]
  exact List.append_nil _

theorem optional_run_of_none {α : Type} {p : Parser α} {cursor : Cursor} {notes : Notes}
    (failed : (p cursor notes).1 = none) :
    optional p cursor notes = (some (none, cursor), (p cursor notes).2) := by
  show ((p >>= fun a => pure (some a)) <|> pure none : Parser (Option α)) cursor notes = _
  rw [orElse_run, bind_run]
  generalize p cursor notes = made at failed ⊢
  obtain ⟨result, notes'⟩ := made
  obtain rfl : result = none := failed
  rfl

/-- How a production keeps the books. The moves that it makes lead to where its parser ends, as deep
as before; at each of them the books are in order and the furthest token is not put back; and an
attempt at it that fails changes nothing but the notes. -/
structure Production.KeepsBooks {depth : Nat} {α : Type} {p : Parser α}
    (production : Production depth p)
    (tokens : List Token) (log : List (Nat × Expectation)) (books : Books) : Prop where
  agrees : p books.cursor books.notes =
    ((production.result books).map (·, (books.afterAll (production.moves books)).cursor),
      (books.afterAll (production.moves books)).notes)
  depth_eq : (books.afterAll (production.moves books)).depth = books.depth
  inOrder : ∀ made, made <+: production.moves books →
    (books.afterAll made).InOrder tokens (log ++ books.recorded made)
  furthest_le : ∀ made more, made ++ more <+: production.moves books →
    (books.afterAll made).notes.furthest ≤ (books.afterAll (made ++ more)).notes.furthest
  restores : production.result books = none →
    books.afterAll (production.attempt.moves books) =
        { books with notes := (books.afterAll (production.moves books)).notes } ∧
      optional p books.cursor books.notes =
        (some (none, books.cursor), (p books.cursor books.notes).2)

theorem Production.keepsBooks_of_inOrder {depth : Nat} {α : Type} {p : Parser α}
    (production : Production depth p) {tokens : List Token} {log : List (Nat × Expectation)}
    {books : Books} (inOrder : books.InOrder tokens log) (level : books.depth = depth) :
    production.KeepsBooks tokens log books := by
  have own := production.accounts inOrder.within level
  refine ⟨own.agrees, own.level, ?_, ?_, fun failed => ⟨?_, ?_⟩⟩
  · rintro made ⟨later, whole⟩
    rw [← whole] at own
    exact inOrder.afterAll (Books.allowsAll_append.1 own.allowed).1
  · intro made more _
    rw [Books.afterAll_append]
    exact (books.afterAll made).furthest_le_afterAll more
  · rw [production.moves_attempt failed, (own.back inOrder.within).2]
  · exact optional_run_of_none (by rw [own.agrees, failed]; rfl)

/-- An error that reports what was recorded at the furthest token: it points at that token and lists
what was expected there, each once and something at least. -/
structure ParseError.Reports (source : List Char) (tokens : List Token)
    (log : List (Nat × Expectation)) (e : ParseError) : Prop where
  points : ∃ t, tokens[furthestOf log]? = some t ∧ e.span = t.span ∧
    e.place = Text.placeAt source t.span.start ∧ e.fault.found = t.kind.describe
  mem_expected_iff : ∀ what, what ∈ e.fault.expected ↔
    ∃ x, (furthestOf log, x) ∈ log ∧ x.describe = what
  nodup : e.fault.expected.Nodup
  nonempty : e.fault.expected ≠ []

theorem reports_errorAt {source : List Char} {tokens : List Token}
    (closed : ∃ t ∈ tokens, t.kind = .endOfInput) {log : List (Nat × Expectation)} {books : Books}
    (inOrder : books.InOrder tokens log) (some : log ≠ []) :
    (errorAt source tokens books.notes).Reports source tokens log := by
  obtain ⟨-, -, tell, logged⟩ := inOrder
  obtain ⟨x, furthest⟩ := furthestOf_mem some
  have inside : furthestOf log < tokens.length := by
    refine Nat.lt_of_le_of_lt (logged _ furthest).1 (List.findIdx_lt_length.2 ?_)
    simpa using closed
  have error : errorAt source tokens books.notes =
      .at source tokens[furthestOf log].span
        (.unexpected books.notes.expected tokens[furthestOf log].kind) := by
    rw [errorAt, tell.furthest, List.getElem?_eq_getElem inside]
  rw [error]
  refine ⟨⟨_, List.getElem?_eq_getElem inside, rfl, rfl, rfl⟩, fun what => ?_, ?_, ?_⟩
  · show what ∈ books.notes.expected.map Expectation.describe ↔ _
    simp only [List.mem_map, tell.mem_iff, tell.furthest]
  · refine List.Nodup.map_on (fun a mem b mem' same => ?_) tell.nodup
    exact Expectation.describe_injective (logged _ ((tell.mem_iff a).1 mem)).2
      (logged _ ((tell.mem_iff b).1 mem')).2 same
  · have listed : x ∈ books.notes.expected := (tell.mem_iff x).2 (tell.furthest ▸ furthest)
    exact List.ne_nil_of_mem (List.mem_map_of_mem listed)

/-- Every production keeps the books, whether it succeeds or fails, and when a card cannot be read
the error reports what was recorded furthest on. -/
theorem keepsBooks :
    (∀ {depth : Nat} {α : Type} {p : Parser α} (production : Production depth p)
      {tokens : List Token} {log : List (Nat × Expectation)} {books : Books},
      books.InOrder tokens log → books.depth = depth → production.KeepsBooks tokens log books) ∧
    ∀ (source : List Char) {tokens : List Token} {notes : Notes},
      (∃ t ∈ tokens, t.kind = .endOfInput) → card ⟨0, tokens⟩ .start = (none, notes) →
      (errorAt source tokens notes).Reports source tokens
        ((Books.start tokens).recorded (card.production.moves (Books.start tokens))) := by
  refine ⟨fun production _ _ _ => production.keepsBooks_of_inOrder, ?_⟩
  intro source tokens notes closed failed
  have kept := card.production.keepsBooks_of_inOrder (Books.inOrder_start tokens) rfl
  obtain ⟨result, same⟩ := Prod.mk.inj (kept.agrees.symm.trans failed)
  rw [Option.map_eq_none_iff] at result
  rw [← same]
  exact reports_errorAt closed (kept.inOrder _ List.prefix_rfl) (Production.speaks_card _ result)

/-- A cost that is none: the brace is read, and four kinds of symbols are missed at the word behind
it before the cost is given up and a card type is missed at the brace. -/
def fooTokens : List Token :=
  Text.tokens "NAME \x7bfoo\x7d unit"

theorem keepsBooks_foo :
    (Books.start fooTokens).InOrder fooTokens [] ∧ (Books.start fooTokens).depth = 0 ∧
    (∃ t ∈ fooTokens, t.kind = .endOfInput) ∧
    card.production.KeepsBooks fooTokens [] (Books.start fooTokens) ∧
    ∃ notes, card ⟨0, fooTokens⟩ .start = (none, notes) ∧
      (errorAt "NAME \x7bfoo\x7d unit".toList fooTokens notes).Reports
        "NAME \x7bfoo\x7d unit".toList fooTokens
        [(2, .one "essence"), (2, .word "q"), (2, .word "t"), (2, .one "number"),
          (1, .one "card type")] := by
  have closed : ∃ t ∈ fooTokens, t.kind = .endOfInput := by decide +kernel
  have failed : card ⟨0, fooTokens⟩ .start =
      (none, ⟨2, [.one "essence", .word "q", .word "t", .one "number"]⟩) :=
    Prod.ext (Option.isNone_iff_eq_none.1 (by decide +kernel)) (by decide +kernel)
  have log : (Books.start fooTokens).recorded (card.production.moves (Books.start fooTokens)) =
      [(2, .one "essence"), (2, .word "q"), (2, .word "t"), (2, .one "number"),
        (1, .one "card type")] := by decide +kernel
  have inOrder := Books.inOrder_start fooTokens
  exact ⟨inOrder, rfl, closed, keepsBooks.1 card.production inOrder rfl, _, failed,
    log ▸ keepsBooks.2 _ closed failed⟩

end CardGame.Grammar
