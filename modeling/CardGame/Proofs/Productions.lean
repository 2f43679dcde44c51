import CardGame.Grammar.Card
import CardGame.Proofs.Moves
import CardGame.Proofs.Outcome

/-!
How the parsers of cards are put together, and the moves they make. A production says of a parser
which of a few forms it is made in, and how many matches it stands in; whatever has such a form
accounts for what it does by moves that may be made. Each parser of the grammar has one, up to that
of a whole card.
-/

namespace CardGame.Grammar

open CardGame.Grammar.Parser
open Text (Token TokenKind)

/-- How a parser is put together, where it stands inside so many matches. -/
inductive Production : Nat → {α : Type} → Parser α → Type 1 where
  | token {depth : Nat} {α : Type} {es : List Expectation} {accept : TokenKind → Option α}
      (stops : accept .endOfInput = none) (plain : ∀ e ∈ es, e.isPlain) :
      Production depth (token es accept)
  | finish {depth : Nat} : Production depth finish
  | value {depth : Nat} {α : Type} (a : α) : Production depth (pure a : Parser α)
  | failure {depth : Nat} {α : Type} : Production depth (failure : Parser α)
  | bind {depth : Nat} {α β : Type} {p : Parser α} {f : α → Parser β} (first : Production depth p)
      (next : ∀ a, Production depth (f a)) : Production depth (p >>= f)
  | orElse {depth : Nat} {α : Type} {p q : Parser α} (first : Production depth p)
      (second : Production depth q) : Production depth (p <|> q)
  | ite {depth : Nat} {α : Type} {c : Prop} [Decidable c] {p q : Parser α}
      (yes : Production depth p) (no : Production depth q) : Production depth (if c then p else q)
  | many {depth : Nat} {α : Type} {p : Parser α} (item : Production depth p) :
      Production depth (many p)
  | consuming {depth : Nat} {α : Type} {p : Parser α} {what : String}
      (plain : (Expectation.one what).isPlain) (item : Production depth p) :
      Production depth (consuming what p)
  | nested {depth : Nat} {α : Type} {p : Parser α} (below : depth < maxMatchDepth)
      (inside : Production (depth + 1) p) : Production depth p
  | tooDeep {depth : Nat} {α : Type} (full : depth = maxMatchDepth) :
      Production depth (expected [.one "shallower nesting"] : Parser α)

def repeated {α : Type} (item : Books → List Move × Option α) (books : Books) :
    List Move × List α :=
  match item books with
  | (moves, some a) =>
    if (books.afterAll moves).cursor.rest.length < books.cursor.rest.length then
      let (more, as) := repeated item (books.afterAll moves)
      (moves ++ more, a :: as)
    else
      (moves ++ [.back books.cursor books.depth], [])
  | (moves, none) => (moves ++ [.back books.cursor books.depth], [])
termination_by books.cursor.rest.length

/-- A match inside others, unless there are too many of them. -/
def guarded {α : Type} (inside : Books → List Move × Option α) (books : Books) :
    List Move × Option α :=
  if books.depth < maxMatchDepth then
    let (moves, result) := inside (books.after .enter)
    (.enter :: moves ++ [.leave], result)
  else
    ([.note (.one "shallower nesting")], none)

def Production.run {depth : Nat} {α : Type} {p : Parser α} (production : Production depth p)
    (books : Books) :
    List Move × Option α :=
  match production with
  | @token _ _ es accept _ _ =>
    match accept (nextKind books.cursor) with
    | some a => ([.read], some a)
    | none => (es.map .note, none)
  | .finish =>
    if nextKind books.cursor = .endOfInput then ([], some ()) else
      ([.note (.one "end of card")], none)
  | .value a => ([], some a)
  | .failure => ([], none)
  | .bind first next =>
    match first.run books with
    | (moves, some a) =>
      let (more, result) := (next a).run (books.afterAll moves)
      (moves ++ more, result)
    | (moves, none) => (moves, none)
  | .orElse first second =>
    match first.run books with
    | (moves, some a) => (moves, some a)
    | (moves, none) =>
      let tried := moves ++ [.back books.cursor books.depth]
      let (more, result) := second.run (books.afterAll tried)
      (tried ++ more, result)
  | @ite _ _ c _ _ _ yes no => if c then yes.run books else no.run books
  | .many item =>
    let (moves, as) := repeated item.run books
    (moves, some as)
  | @consuming _ _ _ what _ item =>
    match item.run books with
    | (moves, some a) =>
      if (books.afterAll moves).cursor.position = books.cursor.position then
        (moves ++ [.note (.one what)], none)
      else (moves, some a)
    | (moves, none) => (moves, none)
  | .nested _ inside => guarded inside.run books
  | .tooDeep _ => guarded (fun _ => ([], none)) books

def Production.moves {depth : Nat} {α : Type} {p : Parser α} (production : Production depth p)
    (books : Books) : List Move :=
  (production.run books).1

def Production.result {depth : Nat} {α : Type} {p : Parser α} (production : Production depth p)
    (books : Books) : Option α :=
  (production.run books).2

/-! ### Moves and parsers -/

theorem many_run {α : Type} (p : Parser α) (cursor : Cursor) (notes : Notes) :
    many p cursor notes =
      match p cursor notes with
      | (some (a, next), notes) =>
        if next.rest.length < cursor.rest.length then
          (do let as ← many p; return a :: as : Parser (List α)) next notes
        else (some ([], cursor), notes)
      | (none, notes) => (some ([], cursor), notes) := by
  show (some (repetitions p cursor notes).1, (repetitions p cursor notes).2) = _
  unfold repetitions
  rcases p cursor notes with ⟨_ | ⟨a, next⟩, notes'⟩
  · rfl
  · simp only
    split <;> rfl

/-- Moves that account for what a parser does: they may be made, they lead to the cursor and the
notes of the parser, and they leave as many matches as they enter. -/
structure Accounts {α : Type} (tokens : List Token) (p : Parser α) (books : Books)
    (moves : List Move) (result : Option α) : Prop where
  allowed : books.AllowsAll tokens moves
  agrees : p books.cursor books.notes =
    (result.map (·, (books.afterAll moves).cursor), (books.afterAll moves).notes)
  level : (books.afterAll moves).depth = books.depth

namespace Accounts

variable {α β : Type} {tokens : List Token} {p q : Parser α} {f : α → Parser β} {books : Books}
  {moves more : List Move}

theorem pure (a : α) : Accounts tokens (Pure.pure a) books [] (some a) :=
  ⟨trivial, rfl, rfl⟩

theorem expected {es : List Expectation} (plain : ∀ e ∈ es, e.isPlain) :
    Accounts tokens (Parser.expected es : Parser α) books (es.map .note) none := by
  induction es generalizing books with
  | nil => exact ⟨trivial, rfl, rfl⟩
  | cons e es ih =>
    obtain ⟨own, others⟩ := List.forall_mem_cons.1 plain
    obtain ⟨allowed, agrees, level⟩ :
        Accounts tokens (Parser.expected es : Parser α) (books.after (.note e)) _ none := ih others
    exact ⟨⟨own, allowed⟩, agrees, level⟩

section Token

variable {es : List Expectation} {accept : TokenKind → Option α}

theorem token_some {a : α} (stops : accept .endOfInput = none)
    (accepted : accept (nextKind books.cursor) = some a) :
    Accounts tokens (Parser.token es accept) books [.read] (some a) where
  allowed := ⟨fun ended => by simp [ended, stops] at accepted, trivial⟩
  agrees := by
    rw [Parser.token, accepted]
    rfl
  level := rfl

theorem token_none (plain : ∀ e ∈ es, e.isPlain) (refused : accept (nextKind books.cursor) = none) :
    Accounts tokens (Parser.token es accept) books (es.map .note) none := by
  obtain ⟨allowed, agrees, level⟩ : Accounts tokens (Parser.expected es : Parser α) books _ none :=
    .expected plain
  refine ⟨allowed, ?_, level⟩
  rw [Parser.token, refused]
  exact agrees

end Token

theorem bind_some {a : α} {result : Option β} (first : Accounts tokens p books moves (some a))
    (next : Accounts tokens (f a) (books.afterAll moves) more result) :
    Accounts tokens (p >>= f) books (moves ++ more) result where
  allowed := Books.allowsAll_append.2 ⟨first.allowed, next.allowed⟩
  agrees := by
    rw [bind_run, first.agrees, Books.afterAll_append]
    exact next.agrees
  level := by rw [Books.afterAll_append, next.level, first.level]

theorem bind_none (first : Accounts tokens p books moves none) :
    Accounts tokens (p >>= f) books moves none where
  allowed := first.allowed
  agrees := by
    rw [bind_run, first.agrees]
    rfl
  level := first.level

theorem back {result : Option α} (first : Accounts tokens p books moves result)
    (within : books.cursor.Within tokens) :
    books.AllowsAll tokens (moves ++ [.back books.cursor books.depth]) ∧
      books.afterAll (moves ++ [.back books.cursor books.depth]) =
        { books with notes := (books.afterAll moves).notes } := by
  refine ⟨Books.allowsAll_append.2 ⟨first.allowed, ⟨within, first.level.symm⟩, trivial⟩, ?_⟩
  rw [Books.afterAll_append]
  rfl

theorem orElse_some {a : α} (first : Accounts tokens p books moves (some a)) :
    Accounts tokens (p <|> q) books moves (some a) where
  allowed := first.allowed
  agrees := by
    rw [orElse_run, first.agrees]
    rfl
  level := first.level

theorem orElse_none {result : Option α} (first : Accounts tokens p books moves none)
    (within : books.cursor.Within tokens)
    (second : Accounts tokens q (books.afterAll (moves ++ [.back books.cursor books.depth])) more
      result) :
    Accounts tokens (p <|> q) books (moves ++ [.back books.cursor books.depth] ++ more) result := by
  obtain ⟨allowed, started⟩ := first.back within
  refine ⟨Books.allowsAll_append.2 ⟨allowed, second.allowed⟩, ?_, ?_⟩
  · rw [orElse_run, first.agrees, Books.afterAll_append, ← second.agrees, started]
    rfl
  · rw [Books.afterAll_append, second.level, started]

theorem consuming_some {what : String} {a : α} (item : Accounts tokens p books moves (some a))
    (moved : (books.afterAll moves).cursor.position ≠ books.cursor.position) :
    Accounts tokens (consuming what p) books moves (some a) where
  allowed := item.allowed
  agrees := by
    rw [consuming_run, item.agrees]
    exact if_neg moved
  level := item.level

theorem consuming_idle {what : String} {a : α} (item : Accounts tokens p books moves (some a))
    (plain : (Expectation.one what).isPlain)
    (same : (books.afterAll moves).cursor.position = books.cursor.position) :
    Accounts tokens (consuming what p) books (moves ++ [.note (.one what)]) none where
  allowed := Books.allowsAll_append.2 ⟨item.allowed, plain, trivial⟩
  agrees := by
    rw [consuming_run, item.agrees, Books.afterAll_append]
    exact if_pos same
  level := by rw [Books.afterAll_append]; exact item.level

theorem consuming_none {what : String} (item : Accounts tokens p books moves none) :
    Accounts tokens (consuming what p) books moves none where
  allowed := item.allowed
  agrees := by
    rw [consuming_run, item.agrees]
    rfl
  level := item.level

theorem guarded {inside : Books → List Move × Option α} (below : books.depth < maxMatchDepth)
    (h : Accounts tokens p (books.after .enter) (inside (books.after .enter)).1
      (inside (books.after .enter)).2) :
    Accounts tokens p books (Grammar.guarded inside books).1 (Grammar.guarded inside books).2 := by
  obtain ⟨allowed, agrees, level⟩ := h
  have deeper : 0 < ((books.after .enter).afterAll (inside (books.after .enter)).1).depth := by
    rw [level]
    exact Nat.succ_pos _
  rw [Grammar.guarded, if_pos below]
  refine ⟨⟨below, Books.allowsAll_append.2 ⟨allowed, deeper, trivial⟩⟩, ?_, ?_⟩
  · simp only [List.cons_append, Books.afterAll_cons, Books.afterAll_append, Books.afterAll_nil]
    exact agrees
  · simp only [List.cons_append, Books.afterAll_cons, Books.afterAll_append, Books.afterAll_nil]
    show ((books.after .enter).afterAll (inside (books.after .enter)).1).depth - 1 = books.depth
    rw [level]
    rfl

theorem tooDeep :
    Accounts tokens (Parser.expected [.one "shallower nesting"] : Parser α) books
      [.note (.one "shallower nesting")] none :=
  .expected (by decide)

theorem repeated {item : Books → List Move × Option α}
    (each : ∀ {books : Books}, books.cursor.Within tokens → books.depth = depth →
      Accounts tokens p books (item books).1 (item books).2)
    (within : books.cursor.Within tokens) (level : books.depth = depth) :
    Accounts tokens (many p) books (Grammar.repeated item books).1
      (some (Grammar.repeated item books).2) := by
  induction measure : books.cursor.rest.length using Nat.strongRecOn generalizing books with
  | ind n ih =>
    have own := each within level
    unfold Grammar.repeated
    generalize item books = made at own
    obtain ⟨moves, _ | a⟩ := made
    · obtain ⟨allowed, started⟩ := own.back within
      refine ⟨allowed, ?_, by rw [started]⟩
      rw [many_run, own.agrees, started]
      rfl
    · simp only
      split
      next shorter =>
        have later := ih _ (measure ▸ shorter) (Books.within_afterAll within own.allowed)
          (own.level.trans level) rfl
        refine ⟨Books.allowsAll_append.2 ⟨own.allowed, later.allowed⟩, ?_, ?_⟩
        · have again := (later.bind_some (f := fun as => Pure.pure (a :: as)) (.pure _)).agrees
          rw [List.append_nil] at again
          rw [many_run, own.agrees, Books.afterAll_append]
          simp only [Option.map_some, shorter, if_true]
          exact again
        · rw [Books.afterAll_append, later.level, own.level]
      next idle =>
        obtain ⟨allowed, started⟩ := own.back within
        refine ⟨allowed, ?_, by rw [started]⟩
        rw [many_run, own.agrees, started]
        simp only [Option.map_some, idle, if_false]

end Accounts

theorem Production.accounts {α : Type} {p : Parser α} {depth : Nat}
    (production : Production depth p)
    {tokens : List Token} {books : Books} (within : books.cursor.Within tokens)
    (level : books.depth = depth) :
    Accounts tokens p books (production.moves books) (production.result books) := by
  rw [moves, result]
  induction production generalizing books with
  | token stops plain =>
    rename_i accept
    rw [run]
    cases accepted : accept (nextKind books.cursor) with
    | some a => exact .token_some stops accepted
    | none => exact .token_none plain accepted
  | finish =>
    rw [run]
    split
    next ended => exact ⟨trivial, by rw [Parser.finish, if_pos ended]; rfl, rfl⟩
    next goesOn => exact ⟨⟨rfl, trivial⟩, by rw [Parser.finish, if_neg goesOn]; rfl, rfl⟩
  | value a => exact .pure a
  | failure => exact ⟨trivial, rfl, rfl⟩
  | bind first next ih ihNext =>
    have own := ih within level
    rw [run]
    generalize first.run books = made at own
    obtain ⟨moves, _ | a⟩ := made
    · exact own.bind_none
    · exact own.bind_some (ihNext a (Books.within_afterAll within own.allowed)
        (own.level.trans level))
  | orElse first second ih ihSecond =>
    have own := ih within level
    rw [run]
    generalize first.run books = made at own
    obtain ⟨moves, _ | a⟩ := made
    · obtain ⟨allowed, started⟩ := own.back within
      exact own.orElse_none within (ihSecond (by rw [started]; exact within)
        (by rw [started]; exact level))
    · exact own.orElse_some
  | ite yes no ihYes ihNo =>
    rw [run]
    split
    next => exact ihYes within level
    next => exact ihNo within level
  | many item ih =>
    rw [run]
    exact .repeated ih within level
  | consuming plain item ih =>
    have own := ih within level
    rw [run]
    generalize item.run books = made at own
    obtain ⟨moves, _ | a⟩ := made
    · exact own.consuming_none
    · simp only
      split
      next same => exact own.consuming_idle plain same
      next moved => exact own.consuming_some moved
  | nested below inside ih =>
    rw [run]
    exact .guarded (level ▸ below) (ih within (congrArg (· + 1) level))
  | tooDeep full =>
    rw [run, guarded, if_neg (by omega)]
    exact .tooDeep

/-! ### The productions of the grammar -/

namespace Production

variable {depth : Nat} {α : Type} {p : Parser α}

def mapped {β : Type} (g : α → β) (item : Production depth p) : Production depth (g <$> p) :=
  .bind item fun a => .value (g a)

def attempt (item : Production depth p) : Production depth (optional p) :=
  .orElse (item.mapped some) (.value none)

def flag {p : Parser Unit} (item : Production depth p) : Production depth (flag p) :=
  .orElse (.bind item fun _ => .value true) (.value false)

def last {β : Type} {g : α → β} (item : Production depth p) :
    Production depth (p >>= fun a => Pure.pure (g a)) :=
  .bind item fun a => .value (g a)

def word (w : String) (plain : (Expectation.word w).isPlain := by decide) :
    Production depth (word w) :=
  .token (by simp) (by simpa using plain)

def oneOf (ws : List String) (plain : ∀ w ∈ ws, (Expectation.word w).isPlain := by decide) :
    Production depth (oneOf ws) :=
  .token rfl (by simpa using plain)

def mark (c : Char) (plain : (Expectation.mark c).isPlain := by decide) :
    Production depth (mark c) :=
  .token (by simp) (by simpa using plain)

def wordAs (what : String) {meaning : String → Option α}
    (plain : (Expectation.one what).isPlain := by decide) :
    Production depth (wordAs what meaning) :=
  .token rfl (by simpa using plain)

def words : (ws : List String) → (plain : ∀ w ∈ ws, (Expectation.word w).isPlain := by decide) →
    Production depth (words ws)
  | [], _ => .value ()
  | w :: ws, plain =>
    .bind (word w (plain w List.mem_cons_self)) fun _ =>
      words ws fun v mem => plain v (List.mem_cons_of_mem w mem)

def many1 (item : Production depth p) : Production depth (many1 p) :=
  .bind item fun _ => .last (.many item)

def enumeration (conjunctions : List String) (item : Production depth p)
    (plain : ∀ w ∈ conjunctions, (Expectation.word w).isPlain := by decide) :
    Production depth (enumeration conjunctions p) :=
  have further : Production depth (furtherItems conjunctions p) :=
    .bind (.many (.bind (mark ',') fun _ => item)) fun _ =>
      .bind (oneOf conjunctions plain) fun _ =>
      .last item
  .bind item fun _ => .last further.attempt

def sequenceOf (item : Production depth p) : Production depth (sequenceOf p) :=
  have joined : Production depth continuation :=
    .bind (mark ',') fun _ => .last (oneOf ["then", "and"]).attempt
  .bind item fun _ => .last (.many (.bind joined fun _ => item))

end Production

section

variable {depth : Nat}

def quantity.production : Production depth quantity :=
  .token rfl (by decide)

def stats.production : Production depth stats :=
  .bind quantity.production fun _ => .bind (.mark '/') fun _ => .last quantity.production

def costSymbol.production : Production depth costSymbol :=
  .bind (.mark '\x7b') fun _ => .bind
    (.orElse (.last (.wordAs "essence")) <| .orElse (.last (.word "q")) <|
      .orElse (.last (.word "t")) (.last quantity.production)) fun _ =>
    .last (.mark '\x7d')

def kindWord.production : Production depth kindWord :=
  .wordAs "card type"

def subtype.production : Production depth subtype :=
  .wordAs "subtype"

def keyword.production : Production depth keyword :=
  .wordAs "keyword"

def color.production : Production depth color :=
  .wordAs "color"

def non.production : Production depth non :=
  .bind (.word "non") fun _ => .mark '-'

def trait.production : Production depth trait :=
  .orElse (.last color.production) <|
  .orElse (.bind non.production fun _ => .last color.production) <|
  .orElse (.last kindWord.production) <|
  .orElse (.bind non.production fun _ => .last kindWord.production) <|
  .orElse (.last (.word "activated")) <|
  .orElse (.last (.word "deactivated")) (.last stats.production)

def stat.production : Production depth stat :=
  .wordAs "damage or health"

def direction.production : Production depth direction :=
  .wordAs "greater or less"

def possessive.production : Production depth possessive :=
  .bind (.mark '\'') fun _ => .word "s"

def leading.production : Production depth leading :=
  .bind direction.production fun _ => .last (.oneOf ["then", "than"])

def trailing.production : Production depth trailing :=
  .bind (.word "or") fun _ => direction.production

def selector.production : Production depth selector :=
  .orElse (.last (.words ["the", "sacrificed"])) (.last (.word "target"))

def lacking.production : Production depth lacking :=
  .bind (.word "without") fun _ => keyword.production

/-! Productions around a match, as deep as they are. -/

section Inner

variable {inner : Parser CardMatch} (own : Production depth inner)

def count.production : Production depth (count inner) :=
  .orElse (.bind (.words ["the", "number", "of"]) fun _ => .last own) <|
  .orElse (.bind own fun _ => .bind possessive.production fun _ => .last stat.production)
    (.last quantity.production)

def comparison.production : Production depth (comparison inner) :=
  .bind leading.production.attempt fun _ => .bind (count.production own) fun _ =>
    .last trailing.production.attempt

def having.production : Production depth (having inner) :=
  .bind (.word "with") fun _ =>
    .orElse (.last (.enumeration ["and"] keyword.production)) <|
      .bind stat.production fun _ => .last (comparison.production own)

def targetingClause.production : Production depth (targetingClause inner) :=
  .bind (.words ["that", "targets"]) fun _ => own

def description.production : Production depth (description inner) :=
  .bind selector.production.attempt fun _ => .bind (.many trait.production) fun _ =>
    .bind (Production.oneOf ["card", "cards"]).attempt fun _ =>
      .bind lacking.production.attempt fun _ => .bind (having.production own).attempt fun _ =>
        .last (.many (targetingClause.production own))

def cardFilter.production : Production depth (cardFilter inner) :=
  .bind (Production.oneOf ["a", "an"]).attempt fun _ =>
    .consuming (by decide) (description.production own)

def alternative.production : Production depth (alternative inner) :=
  .orElse (.last (.word ownName)) <| .orElse (.last (.oneOf ["this", "it"])) <|
    .last (cardFilter.production own)

end Inner

def cardMatchWithin.production : (room depth : Nat) → (all : depth + room = maxMatchDepth) →
    Production depth (cardMatchWithin room)
  | 0, _, all => .tooDeep all
  | room + 1, depth, all =>
    .nested (by omega) (.enumeration ["and", "or"]
      (alternative.production (cardMatchWithin.production room (depth + 1) (by omega))))

def playerAlternative.production : Production depth playerAlternative :=
  .orElse (.last (.words ["each", "player"])) <| .orElse (.last (.word "you")) <|
    .orElse (.last (.words ["your", "opponent"])) (.last (.words ["its", "controller"]))

def playerMatch.production : Production depth playerMatch :=
  .enumeration ["and", "or"] playerAlternative.production

def zone.production : Production depth zone :=
  .bind (Production.oneOf ["your", "the"]).attempt fun _ => .wordAs "zone"

def zoneMatch.production : Production depth zoneMatch :=
  .many1 zone.production

def itsTurn.production (negated : Bool) : Production depth (itsTurn negated) :=
  .bind (.word "it") fun _ => .bind possessive.production fun _ =>
    .ite (.bind (.word "not") fun _ => .words ["your", "turn"]) (.words ["your", "turn"])

def lifeAmount.production {verbs : Parser Unit} (own : Production depth verbs) :
    Production depth (lifeAmount verbs) :=
  .bind own fun _ => .bind quantity.production fun _ => .last (.word "life")

def symbolsOf.production (w : String)
    (plain : ∀ v ∈ [w, w ++ "s"], (Expectation.word v).isPlain := by decide) :
    Production depth (symbolsOf w) :=
  .bind (.oneOf _ plain) fun _ => .many1 costSymbol.production

def draw.production : Production depth draw :=
  .bind (.oneOf ["draw", "draws"]) fun _ => .bind quantity.production fun _ =>
    .last (.oneOf ["card", "cards"])

def tokenKind.production : Production depth tokenKind :=
  .bind kindWord.production fun k => .ite (.bind .failure fun _ => .value k) (.value k)

def createToken.production : Production depth createToken :=
  .bind (.oneOf ["create", "creates"]) fun _ => .bind quantity.production fun _ =>
    .bind stats.production.attempt fun _ => .bind (.many tokenKind.production) fun _ =>
      .bind (.many subtype.production) fun _ => .last (.oneOf ["token", "tokens"])

def extraTurn.production : Production depth extraTurn :=
  .bind (.oneOf ["take", "takes"]) fun _ => .bind quantity.production fun _ =>
    .bind (.word "extra") fun _ => .last (.oneOf ["turn", "turns"])

def look.production : Production depth look :=
  .bind (.oneOf ["look", "looks"]) fun _ => .bind (.words ["at", "the", "top"]) fun _ =>
    .bind quantity.production fun _ => .bind (.oneOf ["card", "cards"]) fun _ =>
      .bind (.word "of") fun _ => .last zoneMatch.production

def putPosition.production : Production depth putPosition :=
  .orElse (.last (.words ["on", "top", "of"])) <|
    .orElse (.last (.words ["on", "the", "bottom", "of"])) (.last (.word "into"))

def sign.production : Production depth sign :=
  .orElse (.last (.mark '+')) (.last (.mark '-'))

def bonus.production : Production depth bonus :=
  .bind (.oneOf ["get", "gets"]) fun _ => .bind sign.production fun _ =>
    .bind quantity.production fun _ => .bind (.mark '/') fun _ => .bind sign.production fun _ =>
      .last quantity.production

def actingPlayers.production : Production depth actingPlayers :=
  .bind playerMatch.production fun _ => .last (Production.word "may").flag

def cardName.production : Production depth cardName :=
  .token rfl (by decide)

def subtypes.production : Production depth subtypes :=
  .bind (Production.mark '-').flag fun _ => .ite (.many subtype.production) (.value [])

end

/-! Productions in which a match begins, so that they stand inside none. -/

def cardMatch.production : Production 0 cardMatch :=
  cardMatchWithin.production maxMatchDepth 0 rfl

def anyMatch.production : Production 0 anyMatch :=
  .orElse (.last playerMatch.production) <| .orElse (.last cardMatch.production)
    (.last (.words ["any", "target"]))

def playerAction.production : Production 0 playerAction :=
  .bind (Production.oneOf ["sacrifice", "sacrifices"]).flag fun _ =>
    .ite (.last cardMatch.production) <|
      .bind (.oneOf ["draw", "draws"]) fun _ => .last (.words ["a", "card"])

def cardAction.production : Production 0 cardAction :=
  .bind (Production.oneOf ["is", "are"]).flag fun _ =>
    .ite (.last (.words ["put", "on", "the", "board"])) <|
      .bind (.oneOf ["leave", "leaves"]) fun _ => .last (.words ["the", "board"])

def condition.production : Production 0 condition :=
  .orElse (.last (itsTurn.production false)) <| .orElse (.last (itsTurn.production true)) <|
  .orElse (.bind playerMatch.production fun _ => .last playerAction.production) <|
  .orElse (.bind cardMatch.production fun _ => .last cardAction.production) <|
    .bind stat.production fun _ => .bind (.word "is") fun _ =>
      .last (comparison.production cardMatch.production)

def lifeChange.production (verbs : List String)
    (plain : ∀ w ∈ verbs, (Expectation.word w).isPlain := by decide) :
    Production 0 (lifeChange verbs) :=
  .bind playerMatch.production fun _ => .bind (.oneOf verbs plain) fun _ => .last (.word "life")

def played.production : Production 0 played :=
  .bind (.words ["you", "play"]) fun _ => cardMatch.production

def damaged.production : Production 0 damaged :=
  .bind cardMatch.production fun _ => .last (.words ["is", "dealt", "damage"])

def trigger.production : Production 0 trigger :=
  .bind (.oneOf ["when", "whenever"]) fun _ =>
    .orElse (.last played.production) <|
      .orElse (.last (lifeChange.production ["gain", "gains"])) <|
    .orElse (.last (lifeChange.production ["lost", "loses", "lose"])) <|
    .orElse (.last damaged.production) (.last condition.production)

def objectsOf.production (w : String)
    (plain : ∀ v ∈ [w, w ++ "s"], (Expectation.word v).isPlain := by decide) :
    Production 0 (objectsOf w) :=
  .bind (.oneOf _ plain) fun _ => cardMatch.production

def discard.production : Production 0 discard :=
  .bind (.oneOf ["discard", "discards"]) fun _ => .bind quantity.production fun _ =>
    .last cardMatch.production.attempt

def shuffled.production : Production 0 shuffled :=
  .bind cardMatch.production fun _ => .last (.word "into")

def shuffle.production : Production 0 shuffle :=
  .bind (.oneOf ["shuffle", "shuffles"]) fun _ => .bind shuffled.production.attempt fun _ =>
    .last zoneMatch.production

def put.production : Production 0 put :=
  .bind (.oneOf ["put", "puts"]) fun _ => .bind cardMatch.production fun _ =>
    .bind putPosition.production fun _ => .bind zoneMatch.production fun _ =>
      .bind (Production.words ["in", "any", "order"]).flag fun _ =>
        .bind (Production.words ["in", "random", "order"]).flag fun _ =>
          .last (Production.word "deactivated").flag

def playerEffect.production : Production 0 playerEffect :=
  .orElse draw.production <| .orElse createToken.production <|
  .orElse (.last (objectsOf.production "destroy")) <|
    .orElse (.last (symbolsOf.production "add")) <|
  .orElse (.last (lifeAmount.production (.oneOf ["gain", "gains"]))) <|
  .orElse (.last (lifeAmount.production (.oneOf ["lose", "loses"]))) <|
  .orElse discard.production <| .orElse shuffle.production <| .orElse extraTurn.production <|
  .orElse look.production <| .orElse put.production <|
  .orElse (.last (objectsOf.production "activate")) <|
  .orElse (.last (objectsOf.production "deactivate")) <|
  .orElse (.last (objectsOf.production "sacrifice")) <|
  .orElse (.last (symbolsOf.production "spend"))
    (.last (lifeAmount.production (.oneOf ["spend", "spends"])))

def damage.production : Production 0 damage :=
  .bind (.oneOf ["deal", "deals"]) fun _ => .bind quantity.production fun _ =>
    .bind (.words ["damage", "to"]) fun _ => .last anyMatch.production

def cardEffect.production : Production 0 cardEffect :=
  .orElse damage.production bonus.production

def playerClause.production : Production 0 playerClause :=
  .bind actingPlayers.production.attempt fun _ => .last (.sequenceOf playerEffect.production)

def cardClause.production : Production 0 cardClause :=
  .bind cardMatch.production.attempt fun _ => .last (.sequenceOf cardEffect.production)

def effect.production : Production 0 effect :=
  .orElse playerClause.production cardClause.production

def composed.production : Production 0 composed :=
  .bind (.sequenceOf effect.production) fun _ => .last (.mark '.')

def abilityCost.production : Production 0 abilityCost :=
  .orElse (.last costSymbol.production) (.last effect.production)

def activated.production : Production 0 activated :=
  .bind (.many1 abilityCost.production) fun _ => .bind (.mark ':') fun _ =>
    .last composed.production

def triggered.production : Production 0 triggered :=
  .bind trigger.production fun _ => .bind (.mark ',') fun _ => .last composed.production

def ability.production : Production 0 ability :=
  .orElse (.last keyword.production) <| .orElse (.last composed.production) <|
    .orElse (.last activated.production) (.last triggered.production)

def sentence.production : Production 0 sentence :=
  .bind ability.production fun _ => .last (Production.mark ',').attempt

def card.production : Production 0 card :=
  .bind cardName.production fun _ => .bind (.many costSymbol.production) fun _ =>
    .bind (.many1 kindWord.production) fun _ => .bind subtypes.production fun _ =>
      .bind (.many sentence.production) fun _ => .bind stats.production.attempt fun _ =>
        .last .finish

end CardGame.Grammar
