import CardGame.Proofs.Parts
import CardGame.Proofs.Scanning
import Mathlib.Data.List.Pairwise

/-!
How the tokens of a text lie in it. A lexeme is a run of characters that can be a token by itself.
The tokens are exactly the lexemes of the text that are part of no longer lexeme; they come in the
order of the text, no two of them overlap, and what lies between them is white space.
-/

namespace CardGame.Text

/-! ### Lexemes -/

/-- Characters that are a token by themselves, and of which kind. -/
inductive Lexeme : List Char → TokenKind → Prop where
  | word {c : Char} {rest : List Char} (first : c.isAlpha)
      (others : ∀ d ∈ rest, isWordCharacter d) :
      Lexeme (c :: rest) (.word (String.ofList (c :: rest)))
  | number {digits : List Char} {n : Amount} (some : digits ≠ []) (all : ∀ d ∈ digits, d.isDigit)
      (value : n.toInt = decimalValue digits) : Lexeme digits (.number n)
  | tooLarge {digits : List Char} (some : digits ≠ []) (all : ∀ d ∈ digits, d.isDigit)
      (value : 9223372036854775807 < decimalValue digits) : Lexeme digits (.fault .integerTooLarge)
  | mark {c : Char} (known : c ∈ punctuation) : Lexeme [c] (.mark c)
  | unexpected {c : Char} (notBlank : isBlank c = false) (notAlpha : c.isAlpha = false)
      (notDigit : c.isDigit = false) (notMark : c ∉ punctuation) :
      Lexeme [c] (.fault (.unexpected c))

/-- A part of a text is a lexeme and belongs to no longer one. -/
def Part.IsLongest {cs : List Char} (a : Part cs) : Prop :=
  ∀ (b : Part cs) (kind : TokenKind), Lexeme b.piece kind → a.span.Within b.span → b = a

theorem apart_of_mark {c : Char} (known : c ∈ punctuation) :
    c.isAlpha = false ∧ c.isDigit = false := by
  have each : punctuation.all fun d => !d.isAlpha && !d.isDigit := by decide
  simpa using List.all_eq_true.1 each c known

theorem numberToken_lexeme {digits : List Char} (some : digits ≠ [])
    (all : ∀ d ∈ digits, d.isDigit) : Lexeme digits (numberToken digits) := by
  rw [numberToken]
  split
  · exact .number some all (Int64.toInt_ofNat_of_lt (by omega))
  · exact .tooLarge some all (by omega)

theorem lexeme_tokenFrom {c : Char} (rest : List Char) (notBlank : isBlank c = false) :
    Lexeme (c :: (tokenFrom c rest).2) (tokenFrom c rest).1 := by
  unfold tokenFrom
  split
  next letter => exact .word letter fun d mem => (List.mem_takeWhile_imp mem)
  next notAlpha =>
    split
    next digit =>
      refine numberToken_lexeme (List.cons_ne_nil _ _) fun d mem => ?_
      obtain rfl | later := List.mem_cons.1 mem
      · exact digit
      · exact List.mem_takeWhile_imp later
    next notDigit =>
      split
      next known => exact .mark known
      next notMark =>
        exact .unexpected notBlank (by simpa using notAlpha) (by simpa using notDigit) notMark

theorem isLexeme_cons_iff {c : Char} {rest : List Char} :
    (∃ kind, Lexeme (c :: rest) kind) ↔ isBlank c = false ∧ ∀ d ∈ rest, goesOn c d := by
  constructor
  · rintro ⟨kind, lexeme⟩
    cases lexeme with
    | word first others =>
      exact ⟨isBlank_of_isWordCharacter (isWordCharacter_of_isAlpha first), by
        simpa [goesOn, first]⟩
    | number _ all | tooLarge _ all =>
      have first := all c List.mem_cons_self
      refine ⟨isBlank_of_isDigit first, fun d mem => ?_⟩
      simp [goesOn, isAlpha_of_isDigit first, first, all d (List.mem_cons_of_mem c mem)]
    | mark known =>
      exact ⟨Bool.eq_false_iff.2 fun blank => (apart_of_isBlank blank).2 known,
        List.forall_mem_nil _⟩
    | unexpected notBlank => exact ⟨notBlank, List.forall_mem_nil _⟩
  · rintro ⟨notBlank, others⟩
    have lexeme := lexeme_tokenFrom rest notBlank
    rw [tokenFrom_rest, List.takeWhile_eq_self_iff.2 others] at lexeme
    exact ⟨_, lexeme⟩

theorem Lexeme.ne_nil {piece : List Char} {kind : TokenKind} (lexeme : Lexeme piece kind) :
    piece ≠ [] := by
  cases lexeme with
  | number some | tooLarge some => exact some
  | word | mark | unexpected => exact List.cons_ne_nil _ _

theorem Lexeme.kind_ne_endOfInput {piece : List Char} {kind : TokenKind}
    (lexeme : Lexeme piece kind) : kind ≠ .endOfInput := by
  cases lexeme <;> exact nofun

theorem tokenFrom_of_digits {c : Char} {rest : List Char} (all : ∀ d ∈ c :: rest, d.isDigit) :
    (tokenFrom c rest).1 = numberToken (c :: rest) := by
  have first := all c List.mem_cons_self
  have others : ∀ d ∈ rest, d.isDigit := fun d mem => all d (List.mem_cons_of_mem c mem)
  simp [tokenFrom, isAlpha_of_isDigit first, first, List.takeWhile_eq_self_iff.2 others]

theorem Lexeme.tokenFrom_eq {c : Char} {rest : List Char} {kind : TokenKind}
    (lexeme : Lexeme (c :: rest) kind) : (tokenFrom c rest).1 = kind := by
  cases lexeme with
  | word first others =>
    rw [tokenFrom, if_pos first, List.takeWhile_eq_self_iff.2 others]
  | @number _ n _ all value =>
    have low : decimalValue (c :: rest) ≤ 9223372036854775807 := by
      have above : n.toInt ≤ 9223372036854775807 := n.toInt_le
      omega
    have same : Int64.ofNat (decimalValue (c :: rest)) = n := by
      rw [← Int64.ofInt_toInt n, value]
      rfl
    rw [tokenFrom_of_digits all, numberToken, if_pos low, same]
  | tooLarge _ all value =>
    rw [tokenFrom_of_digits all, numberToken, if_neg (by omega)]
  | mark known =>
    simp [tokenFrom, apart_of_mark known, known]
  | unexpected _ notAlpha notDigit notMark => simp [tokenFrom, notAlpha, notDigit, notMark]

theorem Lexeme.kind_unique {piece : List Char} {kind kind' : TokenKind}
    (lexeme : Lexeme piece kind) (lexeme' : Lexeme piece kind') : kind = kind' := by
  obtain ⟨c, rest, rfl⟩ := List.exists_cons_of_ne_nil lexeme.ne_nil
  rw [← lexeme.tokenFrom_eq, lexeme'.tokenFrom_eq]

theorem Lexeme.fault_of_mem {piece : List Char} {kind : TokenKind} (lexeme : Lexeme piece kind)
    {c : Char} (mem : c ∈ piece) (noWord : isWordCharacter c = false) (noMark : c ∉ punctuation) :
    kind = .fault (.unexpected c) := by
  have outside {d : Char} (word : isWordCharacter d) : c ≠ d := fun same => by
    simp [← same, noWord] at word
  cases lexeme with
  | word first others =>
    obtain rfl | later := List.mem_cons.1 mem
    · exact absurd rfl (outside (isWordCharacter_of_isAlpha first))
    · exact absurd rfl (outside (others c later))
  | number _ all | tooLarge _ all =>
    exact absurd rfl (outside (isWordCharacter_of_isDigit (all c mem)))
  | mark known => exact absurd (List.mem_singleton.1 mem ▸ known) noMark
  | unexpected => rw [List.mem_singleton.1 mem]

theorem Lexeme.word_of_letter {piece : List Char} {kind : TokenKind} (lexeme : Lexeme piece kind)
    {c : Char} (mem : c ∈ piece) (letter : c.isAlpha) :
    kind = .word (String.ofList piece) ∧
      ∃ first rest, piece = first :: rest ∧ first.isAlpha ∧ ∀ d ∈ rest, isWordCharacter d := by
  cases lexeme with
  | word first others => exact ⟨rfl, _, _, rfl, first, others⟩
  | number _ all | tooLarge _ all => simp [isAlpha_of_isDigit (all c mem)] at letter
  | mark known =>
    rw [List.mem_singleton.1 mem, (apart_of_mark known).1] at letter
    cases letter
  | unexpected _ notAlpha =>
    rw [List.mem_singleton.1 mem, notAlpha] at letter
    cases letter

theorem Lexeme.concat {piece : List Char} {kind : TokenKind} (lexeme : Lexeme piece kind)
    {c d : Char} (mem : c ∈ piece) (letter : c.isAlpha) (next : isWordCharacter d) :
    ∃ kind, Lexeme (piece ++ [d]) kind := by
  obtain ⟨-, first, rest, rfl, alpha, others⟩ := lexeme.word_of_letter mem letter
  have longer : ∀ e ∈ rest ++ [d], isWordCharacter e := by
    intro e mem
    obtain before | last := List.mem_append.1 mem
    · exact others e before
    · exact List.mem_singleton.1 last ▸ next
  exact ⟨_, .word alpha longer⟩

theorem Part.IsLongest.ends {cs : List Char} {a : Part cs} (longest : a.IsLongest)
    {kind : TokenKind} (lexeme : Lexeme a.piece kind) {c d : Char} {rest : List Char}
    (mem : c ∈ a.piece) (letter : c.isAlpha) (follows : a.after = d :: rest) :
    isWordCharacter d = false := by
  refine Bool.eq_false_iff.2 fun word => ?_
  obtain ⟨longer, more⟩ := lexeme.concat mem letter word
  let b : Part cs :=
    ⟨a.before, a.piece ++ [d], rest, a.isWhole.trans
      (by simp only [follows, List.append_assoc]; rfl)⟩
  have within : a.span.Within b.span := by
    simp only [Span.Within, span, spanFrom, b, byteSize_append]
    omega
  have same : (a.piece ++ [d]).length = a.piece.length :=
    congrArg (fun x : Part cs => x.piece.length) (longest b longer more within)
  simp at same

theorem goesOn_trans {first c d : Char} (h : goesOn first c) (h' : goesOn c d) :
    goesOn first d := by
  by_cases letter : first.isAlpha
  · simpa [goesOn, letter] using isWordCharacter_of_goesOn h'
  · by_cases digit : first.isDigit
    · have next : c.isDigit := by simpa [goesOn, letter, digit] using h
      have after : d.isDigit := by simpa [goesOn, isAlpha_of_isDigit next, next] using h'
      simp [goesOn, letter, digit, after]
    · simp [goesOn, letter, digit] at h

/-! ### Texts laid out in tokens -/

/-- The characters of a text from a byte offset on are white space and tokens, each token a lexeme
that does not go on with what comes after it. -/
inductive Tiles : Nat → List Char → List Token → Prop where
  | done (offset : Nat) : Tiles offset [] []
  | blank {offset : Nat} {c : Char} {rest : List Char} {ts : List Token} (blank : isBlank c)
      (later : Tiles (offset + c.utf8Size) rest ts) : Tiles offset (c :: rest) ts
  | token {offset : Nat} {c : Char} {tail after : List Char} {kind : TokenKind} {ts : List Token}
      (lexeme : Lexeme (c :: tail) kind) (ends : ∀ d ∈ after.head?, goesOn c d = false)
      (later : Tiles (offset + byteSize (c :: tail)) after ts) :
      Tiles offset (c :: tail ++ after) (⟨kind, ⟨offset, offset + byteSize (c :: tail)⟩⟩ :: ts)

theorem head?_of_takeWhile {p : Char → Bool} {tail after : List Char}
    (cut : (tail ++ after).takeWhile p = tail) : ∀ d ∈ after.head?, p d = false := by
  have all : ∀ d ∈ tail, p d := fun d mem => List.mem_takeWhile_imp (cut ▸ mem)
  rw [List.takeWhile_append_of_pos all] at cut
  intro d head
  obtain ⟨more, rfl⟩ := List.head?_eq_some_iff.1 head
  exact Bool.eq_false_iff.2 fun goes => by simp [goes] at cut

theorem tiles_tokensFrom (offset : Nat) (cs : List Char) :
    ∃ ts, tokensFrom offset cs =
        ts ++ [⟨.endOfInput, ⟨offset + byteSize cs, offset + byteSize cs⟩⟩] ∧
      Tiles offset cs ts := by
  fun_induction tokensFrom offset cs with
  | case1 offset => exact ⟨[], rfl, .done offset⟩
  | case2 offset c rest blank ih =>
    obtain ⟨ts, all, tiles⟩ := ih
    exact ⟨ts, by rw [all, byteSize_cons, Nat.add_assoc], .blank blank tiles⟩
  | case3 offset c rest notBlank kind tail token stop ih =>
    obtain ⟨ts, all, tiles⟩ := ih
    have lexeme : Lexeme (c :: tail) kind := by
      have scanned := lexeme_tokenFrom rest (by simpa using notBlank)
      rwa [token] at scanned
    have cut : rest.takeWhile (goesOn c) = tail := by rw [← tokenFrom_rest, token]
    obtain ⟨after, rfl⟩ : tail <+: rest := cut ▸ List.takeWhile_prefix _
    have size : stop = offset + byteSize (c :: tail) := Nat.add_assoc _ _ _
    have whole : stop + byteSize after = offset + byteSize (c :: (tail ++ after)) := by
      rw [size, ← List.cons_append, byteSize_append, Nat.add_assoc]
    rw [List.drop_left] at all tiles ⊢
    refine ⟨⟨kind, ⟨offset, stop⟩⟩ :: ts, ?_, ?_⟩
    · rw [all, whole, List.cons_append]
    · rw [size] at tiles ⊢
      exact .token lexeme (head?_of_takeWhile cut) tiles

theorem Tiles.start_le {offset : Nat} {cs : List Char} {ts : List Token} (h : Tiles offset cs ts)
    {t : Token} (mem : t ∈ ts) : offset ≤ t.span.start ∧ t.span.start < t.span.stop := by
  induction h with
  | done => exact nomatch mem
  | @blank offset c rest ts blank later ih =>
    have rest := ih mem
    omega
  | @token offset c tail after kind ts lexeme ends later ih =>
    have some : 0 < byteSize (c :: tail) := byteSize_pos lexeme.ne_nil
    obtain rfl | mem := List.mem_cons.1 mem
    · exact ⟨Nat.le_refl _, by simpa using some⟩
    · have rest := ih mem
      omega

theorem Tiles.pairwise {offset : Nat} {cs : List Char} {ts : List Token} (h : Tiles offset cs ts) :
    ts.Pairwise fun t u => t.span.stop ≤ u.span.start := by
  induction h with
  | done => exact .nil
  | blank _ _ ih => exact ih
  | token _ _ later ih => exact .cons (fun u mem => (later.start_le mem).1) ih

theorem Tiles.exists_part {offset : Nat} {cs : List Char} {ts : List Token} (h : Tiles offset cs ts)
    {t : Token} (mem : t ∈ ts) :
    ∃ a : Part cs, a.spanFrom offset = t.span ∧ Lexeme a.piece t.kind := by
  induction h with
  | done => exact nomatch mem
  | @blank offset c rest ts blank later ih =>
    obtain ⟨a, span, lexeme⟩ := ih mem
    refine ⟨a.behind [c], ?_, lexeme⟩
    rw [Part.spanFrom_behind, ← span, byteSize_cons, byteSize_nil, Nat.add_zero]
  | @token offset c tail after kind ts first ends later ih =>
    obtain rfl | mem := List.mem_cons.1 mem
    · exact ⟨⟨[], c :: tail, after, rfl⟩, rfl, first⟩
    · obtain ⟨a, span, lexeme⟩ := ih mem
      exact ⟨a.behind (c :: tail), by rw [Part.spanFrom_behind, span], lexeme⟩

/-- A lexeme that begins in a token ends in it: what lets the lexeme go on lets the token go on. -/
theorem Lexeme.prefix_of_begins {c p : Char} {tail next before more after rest : List Char}
    {kind : TokenKind} (token : Lexeme (c :: tail) kind)
    (ends : ∀ d ∈ next.head?, goesOn c d = false)
    (goes : ∀ d ∈ more, goesOn p d) (split : c :: tail = before ++ p :: rest)
    (shared : more ++ after = rest ++ next) : more <+: rest := by
  obtain ⟨z, rfl, -⟩ | ⟨z, rfl, follows⟩ := List.append_eq_append_iff.1 shared
  · exact List.prefix_append _ _
  cases z with
  | nil => simp
  | cons d z =>
    have onward : goesOn p d := goes d (by simp)
    have here : goesOn c d := by
      cases before with
      | nil =>
        obtain ⟨rfl, -⟩ := List.cons.inj split
        exact onward
      | cons b before =>
        obtain ⟨rfl, rfl⟩ := List.cons.inj split
        exact goesOn_trans ((isLexeme_cons_iff.1 ⟨_, token⟩).2 p (by simp)) onward
    exact absurd here (by simp [ends d (by simp [follows])])

theorem Tiles.exists_token {offset : Nat} {cs : List Char} {ts : List Token}
    (h : Tiles offset cs ts)
    {before piece after : List Char} {kind : TokenKind} (whole : cs = before ++ piece ++ after)
    (lexeme : Lexeme piece kind) :
    ∃ t ∈ ts, Span.Within ⟨offset + byteSize before, offset + byteSize before + byteSize piece⟩
      t.span := by
  obtain ⟨p, more, rfl⟩ := List.exists_cons_of_ne_nil lexeme.ne_nil
  have goes := isLexeme_cons_iff.1 ⟨kind, lexeme⟩
  induction h generalizing before with
  | done => simp at whole
  | @blank offset c rest ts blank later ih =>
    cases before with
    | nil =>
      obtain ⟨rfl, rfl⟩ := List.cons.inj whole
      exact absurd blank (by simp [goes.1])
    | cons b before =>
      obtain ⟨rfl, rfl⟩ := List.cons.inj whole
      obtain ⟨t, mem, within⟩ := ih rfl
      exact ⟨t, mem, by simpa [Nat.add_assoc] using within⟩
  | @token offset c tail next kind' ts first ends later ih =>
    rw [List.append_assoc] at whole
    have later (x : List Char) (split : before = c :: tail ++ x)
        (rest : next = x ++ (p :: more) ++ after) :
        ∃ t ∈ (⟨kind', ⟨offset, offset + byteSize (c :: tail)⟩⟩ : Token) :: ts,
          Span.Within ⟨offset + byteSize before, offset + byteSize before + byteSize (p :: more)⟩
            t.span := by
      obtain ⟨t, mem, within⟩ := ih rest
      rw [split, byteSize_append, ← Nat.add_assoc]
      exact ⟨t, List.mem_cons_of_mem _ mem, within⟩
    obtain ⟨x, split, rest⟩ | ⟨y, split, rest⟩ := List.append_eq_append_iff.1 whole
    · exact later x split (by rw [rest, List.append_assoc])
    cases y with
    | nil => exact later [] (by simpa using split.symm) (by simpa using rest.symm)
    | cons e y =>
      obtain ⟨rfl, shared⟩ := List.cons.inj rest
      obtain ⟨z, rfl⟩ := first.prefix_of_begins ends goes.2 split shared
      refine ⟨_, List.mem_cons_self, ?_⟩
      simp only [Span.Within, split, byteSize_append, byteSize_cons]
      omega

theorem Lexeme.isBlank_of_mem {piece : List Char} {kind : TokenKind} (lexeme : Lexeme piece kind)
    {c : Char} (mem : c ∈ piece) : isBlank c = false := by
  obtain ⟨first, rest, rfl⟩ := List.exists_cons_of_ne_nil lexeme.ne_nil
  have goes := isLexeme_cons_iff.1 ⟨kind, lexeme⟩
  obtain rfl | later := List.mem_cons.1 mem
  · exact goes.1
  · exact isBlank_of_isWordCharacter (isWordCharacter_of_goesOn (goes.2 c later))

theorem Tiles.covers_iff {cs : List Char} {ts : List Token} (h : Tiles 0 cs ts) (a : Part cs)
    {c : Char} (one : a.piece = [c]) {byte : Nat} (inside : a.span.Covers byte) :
    (∃ t ∈ ts, t.span.Covers byte) ↔ isBlank c = false := by
  constructor
  · rintro ⟨t, mem, covers⟩
    obtain ⟨b, same, lexeme⟩ := h.exists_part mem
    exact lexeme.isBlank_of_mem (b.mem_piece_of_covers a one (by rwa [Part.span, same]) inside)
  · intro notBlank
    obtain ⟨kind, lexeme⟩ := isLexeme_cons_iff.2 ⟨notBlank, List.forall_mem_nil (goesOn c ·)⟩
    obtain ⟨t, mem, within⟩ := h.exists_token a.isWhole (one ▸ lexeme)
    exact ⟨t, mem, within.1.trans inside.1, inside.2.trans_le within.2⟩

theorem Tiles.eq_of_within {offset : Nat} {cs : List Char} {ts : List Token}
    (h : Tiles offset cs ts)
    {t u : Token} (memT : t ∈ ts) (memU : u ∈ ts) (within : t.span.Within u.span) : t = u := by
  have apart : t = u ∨ t.span.stop ≤ u.span.start ∨ u.span.stop ≤ t.span.start :=
    List.Pairwise.forall_of_forall_of_flip
      (R := fun t u : Token => t = u ∨ t.span.stop ≤ u.span.start ∨ u.span.stop ≤ t.span.start)
      (fun _ _ => .inl rfl) (h.pairwise.imp fun order => .inr (.inl order))
      (h.pairwise.imp fun order => Or.inr (.inr order)) memT memU
  have someT := (h.start_le memT).2
  simp only [Span.Within] at within
  obtain same | order | order := apart
  · exact same
  all_goals omega

theorem Tiles.mem_iff {cs : List Char} {ts : List Token} (h : Tiles 0 cs ts) {t : Token} :
    t ∈ ts ↔ ∃ a : Part cs, a.span = t.span ∧ Lexeme a.piece t.kind ∧ a.IsLongest := by
  have covered (b : Part cs) {kind : TokenKind} (lexeme : Lexeme b.piece kind) :
      ∃ u ∈ ts, b.span.Within u.span := h.exists_token b.isWhole lexeme
  constructor
  · intro mem
    obtain ⟨a, same, lexeme⟩ := h.exists_part mem
    refine ⟨a, same, lexeme, fun b kind longer within => Part.eq_of_span ?_⟩
    obtain ⟨u, memU, inside⟩ := covered b longer
    have whole : t = u := h.eq_of_within mem memU (same ▸ within.trans inside)
    exact Span.Within.antisymm (by rw [show a.span = t.span from same, whole]; exact inside) within
  · rintro ⟨a, same, lexeme, longest⟩
    obtain ⟨u, memU, within⟩ := covered a lexeme
    obtain ⟨b, sameU, lexemeU⟩ := h.exists_part memU
    obtain rfl := longest b u.kind lexemeU (by rw [show b.span = u.span from sameU]; exact within)
    have token : t = u := by
      obtain ⟨kind, span⟩ := t
      obtain ⟨kind', span'⟩ := u
      simp only at same sameU lexeme lexemeU
      rw [lexeme.kind_unique lexemeU, ← same, ← sameU]
      rfl
    exact token ▸ memU

theorem Tiles.notMem_of_faultless {cs : List Char} {ts : List Token} (h : Tiles 0 cs ts)
    (faultless : ∀ t ∈ ts, ∀ f, t.kind ≠ .fault f) {c : Char} (notBlank : isBlank c = false)
    (noWord : isWordCharacter c = false) (noMark : c ∉ punctuation) : c ∉ cs := by
  intro mem
  obtain ⟨before, after, whole⟩ := List.append_of_mem mem
  let a : Part cs := ⟨before, [c], after, by rw [whole, List.append_assoc]; rfl⟩
  have covers : a.span.Covers a.span.start := by
    have size := c.utf8Size_pos
    simp only [Span.Covers, Part.span, Part.spanFrom, a, byteSize_cons, byteSize_nil]
    omega
  obtain ⟨t, listed, covered⟩ := (h.covers_iff a rfl covers).2 notBlank
  obtain ⟨b, same, lexeme⟩ := h.exists_part listed
  have held : c ∈ b.piece := b.mem_piece_of_covers a rfl (by rwa [Part.span, same]) covers
  exact faultless t listed _ (lexeme.fault_of_mem held noWord noMark)

/-- The tokens of a text are its longest lexemes, in the order of the text and without overlap, and
then the end of the input, at the end of the text; white space is what lies in no token. -/
theorem tokens_tile (text : String) :
    ∃ ts : List Token,
      tokens text = ts ++ [⟨.endOfInput, ⟨text.utf8ByteSize, text.utf8ByteSize⟩⟩] ∧
      (∀ t ∈ ts, t.kind ≠ .endOfInput ∧ t.span.start < t.span.stop) ∧
      ts.Pairwise (fun t u => t.span.stop ≤ u.span.start) ∧
      (∀ (a : Part text.toList) (c : Char), a.piece = [c] → ∀ byte, a.span.Covers byte →
        ((∃ t ∈ ts, t.span.Covers byte) ↔ isBlank c = false)) ∧
      ∀ t, t ∈ ts ↔ ∃ a : Part text.toList, a.span = t.span ∧ Lexeme a.piece t.kind ∧
        a.IsLongest := by
  obtain ⟨ts, all, tiles⟩ := tiles_tokensFrom 0 text.toList
  rw [Nat.zero_add, byteSize_toList] at all
  refine ⟨ts, all, fun t mem => ⟨?_, (tiles.start_le mem).2⟩, tiles.pairwise,
    fun a c one byte covers => tiles.covers_iff a one covers, fun t => tiles.mem_iff⟩
  obtain ⟨a, -, lexeme⟩ := tiles.exists_part mem
  exact lexeme.kind_ne_endOfInput

end CardGame.Text
