import CardGame.Grammar.Parser

/-!
What parsers do to token kinds. Nothing that a parser of cards returns depends on where tokens stand
or on the notes made before it, so each is known by the value it finds in a list of token kinds and
the kinds it leaves. Every combinator has one equation for this outcome.
-/

namespace CardGame.Grammar

open Text (Token TokenKind)

def Cursor.kinds (cursor : Cursor) : List TokenKind :=
  cursor.rest.map Token.kind

theorem Cursor.length_kinds (cursor : Cursor) : cursor.kinds.length = cursor.rest.length := by
  simp [Cursor.kinds]

/-- A cursor before tokens of the given kinds, which stand nowhere in particular. -/
def Cursor.before (ks : List TokenKind) : Cursor :=
  ⟨0, ks.map (⟨·, ⟨0, 0⟩⟩)⟩

@[simp] theorem Cursor.kinds_before (ks : List TokenKind) : (Cursor.before ks).kinds = ks := by
  simp [Cursor.kinds, Cursor.before, Function.comp_def]

def IsContent (k : TokenKind) : Prop :=
  k ≠ .endOfInput ∧ ∀ f, k ≠ .fault f

/-- A later cursor over the same tokens, which counts those read in between. They are content. -/
structure Cursor.Advances (cursor next : Cursor) : Prop where
  between : ∃ read, cursor.rest = read ++ next.rest ∧ ∀ t ∈ read, IsContent t.kind
  counts : next.position + next.rest.length = cursor.position + cursor.rest.length

theorem Cursor.Advances.refl (cursor : Cursor) : cursor.Advances cursor :=
  ⟨⟨[], rfl, by simp⟩, rfl⟩

theorem Cursor.Advances.trans {a b c : Cursor} (first : a.Advances b) (second : b.Advances c) :
    a.Advances c := by
  obtain ⟨⟨read, split, content⟩, counts⟩ := first
  obtain ⟨⟨more, moreSplit, moreContent⟩, moreCounts⟩ := second
  refine ⟨⟨read ++ more, by rw [split, moreSplit, List.append_assoc], fun t mem => ?_⟩,
    moreCounts.trans counts⟩
  exact (List.mem_append.1 mem).elim (content t) (moreContent t)

def headKind (ks : List TokenKind) : TokenKind :=
  ks.headD .endOfInput

@[simp] theorem headKind_cons (k : TokenKind) (ks : List TokenKind) : headKind (k :: ks) = k := rfl

namespace Parser

variable {α β : Type}

/-- What a parser returns at a cursor, and the kinds of the tokens it leaves. -/
def outcome (p : Parser α) (cursor : Cursor) (notes : Notes) : Option (α × List TokenKind) :=
  (p cursor notes).1.map fun (a, next) => (a, next.kinds)

def reads (p : Parser α) (ks : List TokenKind) : Option (α × List TokenKind) :=
  p.outcome (.before ks) .start

/-- A parser whose outcome depends on the kinds of the tokens alone, and which counts the tokens
that it reads. -/
class Uniform (p : Parser α) : Prop where
  outcome_eq (cursor : Cursor) (notes : Notes) : p.outcome cursor notes = p.reads cursor.kinds
  advances {cursor next : Cursor} {notes : Notes} {a : α} :
    (p cursor notes).1 = some (a, next) → cursor.Advances next

theorem reads_of_none {p : Parser α} [u : p.Uniform] {cursor : Cursor} {notes : Notes}
    (h : (p cursor notes).1 = none) : p.reads cursor.kinds = none := by
  rw [← u.outcome_eq cursor notes, outcome, h, Option.map_none]

theorem reads_of_some {p : Parser α} [u : p.Uniform] {cursor next : Cursor} {notes : Notes} {a : α}
    (h : (p cursor notes).1 = some (a, next)) : p.reads cursor.kinds = some (a, next.kinds) := by
  rw [← u.outcome_eq cursor notes, outcome, h, Option.map_some]

theorem Uniform.of_equation {p : Parser α} (f : List TokenKind → Option (α × List TokenKind))
    (outcome_eq : ∀ cursor notes, p.outcome cursor notes = f cursor.kinds)
    (advances : ∀ {cursor next : Cursor} {notes a}, (p cursor notes).1 = some (a, next) →
      cursor.Advances next) :
    p.Uniform where
  outcome_eq cursor notes := by
    rw [outcome_eq, reads, outcome_eq, Cursor.kinds_before]
  advances := advances

theorem reads_of_equation {p : Parser α} {f : List TokenKind → Option (α × List TokenKind)}
    (outcome_eq : ∀ cursor notes, p.outcome cursor notes = f cursor.kinds) (ks : List TokenKind) :
    p.reads ks = f ks := by
  rw [reads, outcome_eq, Cursor.kinds_before]

theorem reads_between {p : Parser α} [u : p.Uniform] {ks rest : List TokenKind} {a : α}
    (h : p.reads ks = some (a, rest)) :
    ∃ read, ks = read ++ rest ∧ ∀ k ∈ read, IsContent k := by
  obtain ⟨⟨b, next⟩, result, same⟩ := Option.map_eq_some_iff.1 h
  obtain ⟨-, rfl⟩ := Prod.mk.inj same
  obtain ⟨⟨read, split, content⟩, -⟩ := u.advances result
  refine ⟨read.map Token.kind, ?_, fun k mem => ?_⟩
  · rw [← Cursor.kinds_before ks, Cursor.kinds, split, List.map_append]
    rfl
  · obtain ⟨t, listed, rfl⟩ := List.mem_map.1 mem
    exact content t listed

theorem reads_suffix {p : Parser α} [p.Uniform] {ks rest : List TokenKind} {a : α}
    (h : p.reads ks = some (a, rest)) : rest <:+ ks := by
  obtain ⟨read, split, -⟩ := reads_between h
  exact ⟨read, split.symm⟩

/-! ### Sequences -/

theorem pure_run (a : α) (cursor : Cursor) (notes : Notes) :
    (pure a : Parser α) cursor notes = (some (a, cursor), notes) := rfl

theorem outcome_pure (a : α) (cursor : Cursor) (notes : Notes) :
    (pure a : Parser α).outcome cursor notes = some (a, cursor.kinds) := rfl

instance (a : α) : Uniform (pure a) :=
  .of_equation (fun ks => some (a, ks)) (outcome_pure a) (by
    intro cursor next notes b h
    rw [pure_run] at h
    cases h
    exact .refl cursor)

@[simp] theorem reads_pure (a : α) (ks : List TokenKind) :
    (pure a : Parser α).reads ks = some (a, ks) :=
  reads_of_equation (f := fun ks => some (a, ks)) (outcome_pure a) ks

theorem bind_run (p : Parser α) (f : α → Parser β) (cursor : Cursor) (notes : Notes) :
    (p >>= f) cursor notes =
      match p cursor notes with
      | (some (a, next), notes) => f a next notes
      | (none, notes) => (none, notes) := by
  simp only [bind, StateT.bind, OptionT.bind, OptionT.mk]
  cases h : p cursor notes with
  | mk r notes' =>
    rcases r with _ | ⟨a, next⟩ <;> rfl

theorem outcome_bind (p : Parser α) (f : α → Parser β) [p.Uniform] [∀ a, (f a).Uniform]
    (cursor : Cursor) (notes : Notes) :
    (p >>= f).outcome cursor notes =
      (p.reads cursor.kinds).bind fun x => (f x.1).reads x.2 := by
  rw [outcome, bind_run]
  rcases h : p cursor notes with ⟨_ | ⟨a, next⟩, notes'⟩
  · rw [reads_of_none (by rw [h])]
    rfl
  · rw [reads_of_some (by rw [h]), Option.bind_some, ← Uniform.outcome_eq next notes']
    rfl

instance (p : Parser α) (f : α → Parser β) [p.Uniform] [∀ a, (f a).Uniform] :
    Uniform (p >>= f) :=
  .of_equation (fun ks => (p.reads ks).bind fun x => (f x.1).reads x.2) (outcome_bind p f) (by
    intro cursor next notes b h
    rw [bind_run] at h
    rcases e : p cursor notes with ⟨_ | ⟨a, middle⟩, notes'⟩
    · simp [e] at h
    · simp only [e] at h
      exact .trans (Uniform.advances (p := p) (by rw [e])) (Uniform.advances h))

@[simp] theorem reads_bind (p : Parser α) (f : α → Parser β) [p.Uniform] [∀ a, (f a).Uniform]
    (ks : List TokenKind) :
    (p >>= f).reads ks = (p.reads ks).bind fun x => (f x.1).reads x.2 :=
  reads_of_equation (f := fun ks => (p.reads ks).bind fun x => (f x.1).reads x.2)
    (outcome_bind p f) ks

instance (f : α → β) (p : Parser α) [p.Uniform] : Uniform (f <$> p) := by
  rw [← bind_pure_comp]
  infer_instance

@[simp] theorem reads_map (f : α → β) (p : Parser α) [p.Uniform] (ks : List TokenKind) :
    (f <$> p).reads ks = (p.reads ks).map fun x => (f x.1, x.2) := by
  rw [← bind_pure_comp, reads_bind]
  cases p.reads ks <;> simp

/-! ### Choices -/

instance : Uniform (failure : Parser α) where
  outcome_eq _ _ := rfl
  advances h := nomatch h

@[simp] theorem reads_failure (ks : List TokenKind) : (failure : Parser α).reads ks = none := rfl

theorem orElse_run (p q : Parser α) (cursor : Cursor) (notes : Notes) :
    (p <|> q) cursor notes =
      match p cursor notes with
      | (some result, notes) => (some result, notes)
      | (none, notes) => q cursor notes := by
  show (OptionT.orElse (p cursor) fun _ => q cursor) notes = _
  delta OptionT.orElse
  simp only [OptionT.mk, bind, StateT.bind]
  rcases h : p cursor notes with ⟨_ | ⟨a, next⟩, notes'⟩ <;> rfl

theorem outcome_orElse (p q : Parser α) [p.Uniform] [q.Uniform] (cursor : Cursor) (notes : Notes) :
    (p <|> q).outcome cursor notes = (p.reads cursor.kinds).or (q.reads cursor.kinds) := by
  rw [outcome, orElse_run]
  rcases h : p cursor notes with ⟨_ | ⟨a, next⟩, notes'⟩
  · rw [reads_of_none (by rw [h]), Option.none_or, ← Uniform.outcome_eq cursor notes']
    rfl
  · rw [reads_of_some (by rw [h]), Option.some_or]
    rfl

instance (p q : Parser α) [p.Uniform] [q.Uniform] : Uniform (p <|> q) :=
  .of_equation (fun ks => (p.reads ks).or (q.reads ks)) (outcome_orElse p q) (by
    intro cursor next notes b h
    rw [orElse_run] at h
    rcases e : p cursor notes with ⟨_ | ⟨a, middle⟩, notes'⟩
    · simp only [e] at h
      exact Uniform.advances h
    · simp only [e, Option.some.injEq, Prod.mk.injEq] at h
      exact Uniform.advances (p := p) (by rw [e, ← h.2]))

@[simp] theorem reads_orElse (p q : Parser α) [p.Uniform] [q.Uniform] (ks : List TokenKind) :
    (p <|> q).reads ks = (p.reads ks).or (q.reads ks) :=
  reads_of_equation (f := fun ks => (p.reads ks).or (q.reads ks)) (outcome_orElse p q) ks

instance (p : Parser α) [p.Uniform] : Uniform (optional p) := by
  unfold optional
  infer_instance

@[simp] theorem reads_optional (p : Parser α) [p.Uniform] (ks : List TokenKind) :
    (optional p).reads ks = some (((p.reads ks).map fun x => (some x.1, x.2)).getD (none, ks)) := by
  rw [optional, reads_orElse, reads_map, reads_pure]
  cases p.reads ks <;> rfl

instance (p : Parser Unit) [p.Uniform] : Uniform (flag p) := by
  unfold flag
  infer_instance

@[simp] theorem reads_flag (p : Parser Unit) [p.Uniform] (ks : List TokenKind) :
    (flag p).reads ks = some (((p.reads ks).map fun x => (true, x.2)).getD (false, ks)) := by
  rw [flag, reads_orElse, reads_bind, reads_pure]
  cases p.reads ks <;> simp

instance (c : Prop) [Decidable c] (p q : Parser α) [p.Uniform] [q.Uniform] :
    Uniform (if c then p else q) := by
  split <;> infer_instance

/-! ### Parts of what was read -/

section Parts

variable {p : Parser α} {f : α → Parser β} {ks rest : List TokenKind}

theorem parts_of_pure {a b : α} (read : (pure a : Parser α).reads ks = some (b, rest)) :
    a = b ∧ ks = rest := by
  rw [reads_pure] at read
  exact Prod.mk.inj (Option.some.inj read)

theorem parts_of_bind [p.Uniform] [∀ a, (f a).Uniform] {b : β}
    (read : (p >>= f).reads ks = some (b, rest)) :
    ∃ a middle, p.reads ks = some (a, middle) ∧ (f a).reads middle = some (b, rest) := by
  rw [reads_bind] at read
  obtain ⟨⟨a, middle⟩, own, later⟩ := Option.bind_eq_some_iff.1 read
  exact ⟨a, middle, own, later⟩

theorem parts_of_optional [p.Uniform] {o : Option α}
    (read : (optional p).reads ks = some (o, rest)) :
    (∃ a, o = some a ∧ p.reads ks = some (a, rest)) ∨
      (o = none ∧ ks = rest ∧ p.reads ks = none) := by
  rw [reads_optional] at read
  cases own : p.reads ks with
  | none => exact .inr (by simpa [own, eq_comm] using read)
  | some x => exact .inl ⟨x.1, by simpa [own, Prod.ext_iff, eq_comm] using read⟩

end Parts

/-! ### Tokens -/

instance (es : List Expectation) : Uniform (expected es : Parser α) where
  outcome_eq _ _ := rfl
  advances h := nomatch h

@[simp] theorem reads_expected (es : List Expectation) (ks : List TokenKind) :
    (expected es : Parser α).reads ks = none := rfl

theorem nextKind_eq (cursor : Cursor) : nextKind cursor = headKind cursor.kinds := by
  rcases cursor with ⟨_, _ | ⟨t, ts⟩⟩ <;> rfl

section Token

variable {es : List Expectation} {accept : TokenKind → Option α}

theorem outcome_token (cursor : Cursor) (notes : Notes) :
    (token es accept).outcome cursor notes =
      (accept (headKind cursor.kinds)).map (·, cursor.kinds.tail) := by
  unfold outcome token
  rw [nextKind_eq]
  cases accept (headKind cursor.kinds) with
  | none => rfl
  | some a =>
    show some (a, Cursor.kinds _) = _
    simp [Cursor.kinds, List.map_tail]

theorem uniform_token (stops : accept .endOfInput = none) (faults : ∀ f, accept (.fault f) = none) :
    (token es accept).Uniform :=
  .of_equation (fun ks => (accept (headKind ks)).map (·, ks.tail)) outcome_token (by
    rintro ⟨position, rest⟩ next notes a h
    cases rest with
    | nil => simp [token, nextKind, stops, expected] at h
    | cons t ts =>
      cases accepted : accept t.kind with
      | none => simp [token, nextKind, accepted, expected] at h
      | some b =>
        simp only [token, nextKind, accepted, List.tail_cons] at h
        obtain ⟨-, rfl⟩ := Prod.mk.inj (Option.some.inj h)
        refine ⟨⟨[t], rfl, fun u mem => ?_⟩, by simp only [List.length_cons]; omega⟩
        obtain rfl := List.mem_singleton.1 mem
        exact ⟨fun e => (nomatch (e ▸ accepted).symm.trans stops),
          fun f e => (nomatch (e ▸ accepted).symm.trans (faults f))⟩)

theorem reads_token (ks : List TokenKind) :
    (token es accept).reads ks = (accept (headKind ks)).map (·, ks.tail) :=
  reads_of_equation (f := fun ks => (accept (headKind ks)).map (·, ks.tail)) outcome_token ks

end Token

instance (w : String) : Uniform (word w) :=
  uniform_token (by simp) (by simp)

instance (ws : List String) : Uniform (oneOf ws) :=
  uniform_token rfl fun _ => rfl

instance (c : Char) : Uniform (mark c) :=
  uniform_token (by simp) (by simp)

instance (what : String) (meaning : String → Option α) : Uniform (wordAs what meaning) :=
  uniform_token rfl fun _ => rfl

theorem reads_word (w : String) (ks : List TokenKind) :
    (word w).reads ks = if headKind ks = .word w then some ((), ks.tail) else none := by
  rw [word, reads_token]
  split <;> rfl

theorem reads_mark (c : Char) (ks : List TokenKind) :
    (mark c).reads ks = if headKind ks = .mark c then some ((), ks.tail) else none := by
  rw [mark, reads_token]
  split <;> rfl

@[simp] theorem reads_word_cons (w : String) (k : TokenKind) (ks : List TokenKind) :
    (word w).reads (k :: ks) = if k = .word w then some ((), ks) else none :=
  reads_word w (k :: ks)

@[simp] theorem reads_mark_cons (c : Char) (k : TokenKind) (ks : List TokenKind) :
    (mark c).reads (k :: ks) = if k = .mark c then some ((), ks) else none :=
  reads_mark c (k :: ks)

@[simp] theorem reads_oneOf_word (ws : List String) (w : String) (ks : List TokenKind) :
    (oneOf ws).reads (.word w :: ks) = if w ∈ ws then some ((), ks) else none := by
  rw [oneOf, reads_token]
  simp only [headKind_cons, List.tail_cons]
  split <;> rfl

@[simp] theorem reads_wordAs_word (what : String) (meaning : String → Option α) (w : String)
    (ks : List TokenKind) :
    (wordAs what meaning).reads (.word w :: ks) = (meaning w).map (·, ks) := by
  rw [wordAs, reads_token]
  rfl

theorem word_none {w : String} {ks : List TokenKind} (h : headKind ks ≠ .word w) :
    (word w).reads ks = none := by
  rw [reads_word, if_neg h]

theorem mark_none {c : Char} {ks : List TokenKind} (h : headKind ks ≠ .mark c) :
    (mark c).reads ks = none := by
  rw [reads_mark, if_neg h]

theorem oneOf_none {ws : List String} {ks : List TokenKind}
    (h : ∀ w ∈ ws, headKind ks ≠ .word w) : (oneOf ws).reads ks = none := by
  rw [oneOf, reads_token]
  cases head : headKind ks with
  | word w => exact congrArg _ (if_neg fun mem => h w mem head)
  | _ => rfl

theorem wordAs_none {what : String} {meaning : String → Option α} {ks : List TokenKind}
    (h : ∀ w, headKind ks = .word w → meaning w = none) :
    (wordAs what meaning).reads ks = none := by
  rw [wordAs, reads_token]
  cases head : headKind ks with
  | word w => simp [h w head]
  | _ => rfl

theorem words_nil : words [] = pure () := rfl

theorem words_cons (w : String) (ws : List String) :
    words (w :: ws) = word w >>= fun _ => words ws := rfl

instance (ws : List String) : Uniform (words ws) := by
  induction ws with
  | nil => rw [words_nil]; infer_instance
  | cons w ws ih => rw [words_cons]; infer_instance

@[simp] theorem reads_words_nil (ks : List TokenKind) : (words []).reads ks = some ((), ks) := by
  rw [words_nil, reads_pure]

@[simp] theorem reads_words_cons (w : String) (ws : List String) (ks : List TokenKind) :
    (words (w :: ws)).reads ks = ((word w).reads ks).bind fun x => (words ws).reads x.2 := by
  rw [words_cons, reads_bind]

theorem outcome_finish (cursor : Cursor) (notes : Notes) :
    finish.outcome cursor notes =
      if headKind cursor.kinds = .endOfInput then some ((), cursor.kinds) else none := by
  unfold outcome finish
  rw [nextKind_eq]
  split <;> rfl

instance : Uniform finish :=
  .of_equation (fun ks => if headKind ks = .endOfInput then some ((), ks) else none)
    outcome_finish (by
      intro cursor next notes a h
      unfold finish at h
      split at h
      · cases h; exact .refl _
      · exact nomatch h)

theorem reads_finish (ks : List TokenKind) :
    finish.reads ks = if headKind ks = .endOfInput then some ((), ks) else none :=
  reads_of_equation (f := fun ks => if headKind ks = .endOfInput then some ((), ks) else none)
    outcome_finish ks

/-! ### Repetitions -/

def readsAll (p : Parser α) (ks : List TokenKind) : List α × List TokenKind :=
  match p.reads ks with
  | some (a, rest) =>
    if rest.length < ks.length then
      (a :: (readsAll p rest).1, (readsAll p rest).2)
    else
      ([], ks)
  | none => ([], ks)
termination_by ks.length

section Repetitions

variable {p : Parser α} [p.Uniform]

theorem repetitions_eq (cursor : Cursor) (notes : Notes) :
    (repetitions p cursor notes).1.1 = (p.readsAll cursor.kinds).1 ∧
      (repetitions p cursor notes).1.2.kinds = (p.readsAll cursor.kinds).2 ∧
      cursor.Advances (repetitions p cursor notes).1.2 := by
  induction measure : cursor.rest.length using Nat.strongRecOn generalizing cursor notes with
  | ind n ih =>
    unfold repetitions readsAll
    rcases h : p cursor notes with ⟨_ | ⟨a, next⟩, notes'⟩
    · rw [reads_of_none (by rw [h])]
      exact ⟨rfl, rfl, .refl _⟩
    · rw [reads_of_some (by rw [h])]
      simp only [Cursor.length_kinds]
      split
      · obtain ⟨values, left, later⟩ := ih next.rest.length (by omega) next notes' rfl
        have first : cursor.Advances next := Uniform.advances (p := p) (by rw [h])
        exact ⟨by rw [← values], left, first.trans later⟩
      · exact ⟨rfl, rfl, .refl _⟩

theorem outcome_many (cursor : Cursor) (notes : Notes) :
    (many p).outcome cursor notes = some (p.readsAll cursor.kinds) := by
  obtain ⟨values, left, -⟩ := repetitions_eq (p := p) cursor notes
  show some _ = _
  exact congrArg some (Prod.ext values left)

instance : Uniform (many p) :=
  .of_equation (fun ks => some (p.readsAll ks)) outcome_many (by
    intro cursor next notes as h
    have later := (repetitions_eq (p := p) cursor notes).2.2
    have last : (repetitions p cursor notes).1 = (as, next) := Option.some.inj h
    rwa [last] at later)

@[simp] theorem reads_many (ks : List TokenKind) : (many p).reads ks = some (p.readsAll ks) :=
  reads_of_equation (f := fun ks => some (p.readsAll ks)) outcome_many ks

instance : Uniform (many1 p) := by
  unfold many1
  infer_instance

omit [p.Uniform] in
theorem readsAll_of_none {ks : List TokenKind} (h : p.reads ks = none) :
    p.readsAll ks = ([], ks) := by
  rw [readsAll, h]

omit [p.Uniform] in
theorem readsAll_of_some {ks rest : List TokenKind} {a : α} (h : p.reads ks = some (a, rest))
    (shorter : rest.length < ks.length) :
    p.readsAll ks = (a :: (p.readsAll rest).1, (p.readsAll rest).2) := by
  rw [readsAll, h]
  exact if_pos shorter

omit [p.Uniform] in
theorem readsAll_eq_of_nil {ks : List TokenKind} (nothing : (p.readsAll ks).1 = []) :
    p.readsAll ks = ([], ks) := by
  unfold readsAll at nothing ⊢
  split
  · split
    · simp_all
    · rfl
  · rfl

end Repetitions

/-! ### Parsers that have to read something -/

theorem consuming_run (what : String) (p : Parser α) (cursor : Cursor) (notes : Notes) :
    consuming what p cursor notes =
      match p cursor notes with
      | (some (a, next), notes) =>
        if next.position = cursor.position then expected [.one what] next notes
        else (some (a, next), notes)
      | (none, notes) => (none, notes) := by
  unfold consuming
  rw [bind_run]
  show (p >>= _) cursor notes = _
  rw [bind_run]
  rcases p cursor notes with ⟨_ | ⟨a, next⟩, notes'⟩
  · rfl
  · show (if next.position = cursor.position then
        (expected [.one what] : Parser Unit) >>= fun _ => pure a else pure a : Parser α)
      next notes' = _
    split
    · rename_i same
      rw [bind_run]
      simp only [same, if_true]
      rfl
    · rename_i moved
      simp only [moved, if_false]
      rfl

theorem outcome_consuming (what : String) (p : Parser α) [p.Uniform] (cursor : Cursor)
    (notes : Notes) :
    (consuming what p).outcome cursor notes =
      (p.reads cursor.kinds).bind fun x =>
        if x.2.length = cursor.kinds.length then none else some x := by
  rw [outcome, consuming_run]
  rcases h : p cursor notes with ⟨_ | ⟨a, next⟩, notes'⟩
  · rw [reads_of_none (by rw [h])]
    rfl
  · have counts : next.position + next.rest.length = cursor.position + cursor.rest.length :=
      (Uniform.advances (p := p) (by rw [h])).counts
    rw [reads_of_some (by rw [h]), Option.bind_some]
    simp only [Cursor.length_kinds]
    by_cases same : next.position = cursor.position
    · rw [if_pos same, if_pos (by omega)]
      rfl
    · rw [if_neg same, if_neg (by omega)]
      rfl

instance (what : String) (p : Parser α) [p.Uniform] : Uniform (consuming what p) :=
  .of_equation
    (fun ks => (p.reads ks).bind fun x => if x.2.length = ks.length then none else some x)
    (outcome_consuming what p) (by
      intro cursor next notes a h
      rw [consuming_run] at h
      rcases e : p cursor notes with ⟨_ | ⟨b, middle⟩, notes'⟩
      · simp [e] at h
      · simp only [e] at h
        split at h
        · exact nomatch h
        · simp only [Option.some.injEq, Prod.mk.injEq] at h
          exact Uniform.advances (p := p) (by rw [e, ← h.2]))

@[simp] theorem reads_consuming (what : String) (p : Parser α) [p.Uniform] (ks : List TokenKind) :
    (consuming what p).reads ks =
      (p.reads ks).bind fun x => if x.2.length = ks.length then none else some x :=
  reads_of_equation
    (f := fun ks => (p.reads ks).bind fun x => if x.2.length = ks.length then none else some x)
    (outcome_consuming what p) ks

theorem parts_of_consuming {what : String} {p : Parser α} [p.Uniform] {ks rest : List TokenKind}
    {a : α} (read : (consuming what p).reads ks = some (a, rest)) :
    p.reads ks = some (a, rest) ∧ rest.length ≠ ks.length := by
  rw [reads_consuming] at read
  obtain ⟨x, own, kept⟩ := Option.bind_eq_some_iff.1 read
  split at kept
  · cases kept
  · rename_i moved
    cases kept
    exact ⟨own, moved⟩

end Parser

end CardGame.Grammar
