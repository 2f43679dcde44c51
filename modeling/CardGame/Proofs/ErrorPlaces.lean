import CardGame.Proofs.SourceLines
import CardGame.Proofs.Tiling

/-!
Where the errors of a card text point. The grammar reads the text in small letters and with a
placeholder for the card's name, and an error gives the bytes, the line and the column of the token
it names in that source. The line is always that of the token in the text. The bytes and the column
are, too, unless the name or a letter before the token takes another room in the source than in the
text.
-/

namespace CardGame.Text

/-! ### Lines and columns -/

def lastLine (cs : List Char) : List Char :=
  (cs.reverse.takeWhile (· != '\n')).reverse

theorem lastLine_concat (cs : List Char) (c : Char) :
    lastLine (cs ++ [c]) = if c = '\n' then [] else lastLine cs ++ [c] := by
  by_cases newline : c = '\n' <;> simp [lastLine, newline]

theorem newline_notMem_lastLine (cs : List Char) : '\n' ∉ lastLine cs := fun mem => by
  simpa using List.mem_takeWhile_imp (List.mem_reverse.1 mem)

theorem lastLine_of_notMem {cs : List Char} (line : '\n' ∉ cs) : lastLine cs = cs := by
  rw [lastLine, List.takeWhile_eq_self_iff.2, List.reverse_reverse]
  intro c mem
  simpa using fun newline : c = '\n' => line (newline ▸ List.mem_reverse.1 mem)

theorem lastLine_append_newline (cs : List Char) {line : List Char} (one : '\n' ∉ line) :
    lastLine (cs ++ '\n' :: line) = line := by
  have all : ∀ c ∈ line.reverse, (c != '\n') = true := fun c mem => by
    simpa using fun newline : c = '\n' => one (newline ▸ List.mem_reverse.1 mem)
  simp [lastLine, List.takeWhile_append_of_pos all]

theorem lastLine_cases (cs : List Char) :
    lastLine cs = cs ∨ ∃ before, cs = before ++ '\n' :: lastLine cs := by
  induction cs using List.reverseRecOn with
  | nil => exact .inl rfl
  | append_singleton cs c ih =>
    rw [lastLine_concat]
    split
    next newline => exact .inr ⟨cs, by rw [newline]⟩
    next =>
      obtain whole | ⟨before, split⟩ := ih
      · exact .inl (by rw [whole])
      · exact .inr ⟨before, by rw [← List.cons_append, ← List.append_assoc, ← split]⟩

theorem Place.advance_zero (place : Place) (cs : List Char) : place.advance cs 0 = place := by
  cases cs with
  | nil => rfl
  | cons c cs => rw [advance, if_pos c.utf8Size_pos]

theorem placeAt_append (cs after : List Char) :
    placeAt (cs ++ after) (byteSize cs) = ⟨cs.count '\n' + 1, (lastLine cs).length + 1⟩ := by
  have ends : Place.advance ⟨1, 1⟩ cs (byteSize cs) =
      ⟨cs.count '\n' + 1, (lastLine cs).length + 1⟩ := by
    induction cs using List.reverseRecOn with
    | nil => rfl
    | append_singleton cs c ih =>
      rw [byteSize_append, Place.advance_append, ih, lastLine_concat, List.count_append]
      by_cases newline : c = '\n' <;> simp [Place.advance, newline]
  rw [placeAt, ← Nat.add_zero (byteSize cs), Place.advance_append, ends, Place.advance_zero]

theorem Part.placeAt_start {cs : List Char} (a : Part cs) :
    placeAt cs a.span.start = ⟨a.before.count '\n' + 1, (lastLine a.before).length + 1⟩ := by
  have start : a.span.start = byteSize a.before := Nat.zero_add _
  rw [start, ← placeAt_append a.before (a.piece ++ a.after), ← List.append_assoc]
  exact congrArg (placeAt · (byteSize a.before)) a.isWhole

/-! ### Small letters -/

/-- A text and the same text in small letters, letter by letter. What a capital sigma becomes
depends on what stands beside it. -/
inductive Small : List Char → List Char → Prop where
  | done : Small [] []
  | letter {c : Char} {cs letters small : List Char}
      (same : letters = lowerChar c ∨ c = 'Σ' ∧ letters = ['ς']) (later : Small cs small) :
      Small (c :: cs) (letters ++ small)

theorem small_lowerAfter (before cs : List Char) : Small cs (lowerAfter before cs) := by
  induction cs generalizing before with
  | nil => exact .done
  | cons c cs ih =>
    refine .letter ?_ (ih (c :: before))
    split
    next sigma =>
      subst sigma
      split
      · exact .inr ⟨rfl, rfl⟩
      · exact .inl (by decide)
    next => exact .inl rfl

theorem lowerChar_cases (c : Char) : (∃ p, lowerChar c = [p]) ∨ lowerChar c = ['i', '\u0307'] := by
  unfold lowerChar
  split
  · exact .inl ⟨_, rfl⟩
  · split
    · exact .inr rfl
    · split <;> exact .inl ⟨_, rfl⟩

theorem room_of_small {c : Char} {letters : List Char}
    (same : letters = lowerChar c ∨ c = 'Σ' ∧ letters = ['ς']) :
    byteSize letters = byteSize (lowerChar c) ∧ letters.length = (lowerChar c).length ∧
      letters.count '\n' = (lowerChar c).count '\n' := by
  obtain rfl | ⟨rfl, rfl⟩ := same
  · exact ⟨rfl, rfl, rfl⟩
  · rw [show lowerChar 'Σ' = ['σ'] by decide]
    exact ⟨rfl, rfl, rfl⟩

namespace Small

variable {text small : List Char}

theorem of_append {front back : List Char} (h : Small (front ++ back) small) :
    ∃ a b, small = a ++ b ∧ Small front a ∧ Small back b := by
  induction front generalizing small with
  | nil => exact ⟨[], small, rfl, .done, h⟩
  | cons c front ih =>
    cases h with
    | letter same later =>
      obtain ⟨a, b, rfl, first, second⟩ := ih later
      exact ⟨_ ++ a, b, by rw [List.append_assoc], .letter same first, second⟩

theorem cut {a b : List Char} (h : Small text (a ++ b))
    (whole : a.getLast? = some 'i' → b.head? ≠ some '\u0307') :
    ∃ front back, text = front ++ back ∧ Small front a ∧ Small back b := by
  generalize both : a ++ b = small at h
  induction h generalizing a with
  | done =>
    obtain ⟨rfl, rfl⟩ := List.append_eq_nil_iff.1 both
    exact ⟨[], [], rfl, .done, .done⟩
  | @letter c cs letters small same later ih =>
    obtain rfl | ⟨x, rfl, rest⟩ | ⟨p, x, q, y, rfl, inside, rest⟩ := cut_cases both
    · rw [List.nil_append] at both
      exact ⟨[], c :: cs, rfl, .done, both ▸ .letter same later⟩
    · obtain ⟨front, back, rfl, first, second⟩ :=
        ih (fun last => whole (by rw [List.getLast?_append, last]; rfl)) rest.symm
      exact ⟨c :: front, back, rfl, .letter same first, second⟩
    · -- Only one letter becomes two, and those are not cut apart.
      obtain rfl : letters = ['i', '\u0307'] := by
        obtain rfl | ⟨-, rfl⟩ := same
        · obtain ⟨p, one⟩ | two := lowerChar_cases c
          · simpa using congrArg List.length (one.symm.trans inside)
          · exact two
        · simpa using congrArg List.length inside
      obtain ⟨rfl, rfl, rfl, rfl⟩ : p = 'i' ∧ x = [] ∧ q = '\u0307' ∧ y = [] := by
        cases x with
        | nil => simpa [eq_comm] using inside
        | cons d x => simpa using congrArg List.length inside
      exact absurd (by rw [rest]; rfl) (whole rfl)

theorem count_newline (h : Small text small) : small.count '\n' = text.count '\n' := by
  induction h with
  | done => rfl
  | @letter c cs letters small same later ih =>
    rw [List.count_append, (room_of_small same).2.2, ih, List.count_cons, Nat.add_comm]
    congr 1
    by_cases newline : c = '\n'
    · subst newline
      decide
    · rw [List.count_eq_zero.2 (newline_notMem_lowerChar newline)]
      simp [newline]

theorem byteSize_eq (h : Small text small)
    (kept : ∀ c ∈ text, byteSize (lowerChar c) = c.utf8Size) :
    byteSize small = byteSize text := by
  induction h with
  | done => rfl
  | letter same later ih =>
    rw [byteSize_append, (room_of_small same).1, kept _ List.mem_cons_self,
      ih fun c mem => kept c (List.mem_cons_of_mem _ mem), byteSize_cons]

theorem length_eq (h : Small text small) (kept : ∀ c ∈ text, (lowerChar c).length = 1) :
    small.length = text.length := by
  induction h with
  | done => rfl
  | letter same later ih =>
    rw [List.length_append, (room_of_small same).2.1, kept _ List.mem_cons_self,
      ih fun c mem => kept c (List.mem_cons_of_mem _ mem), List.length_cons, Nat.add_comm]

theorem notMem_newline (h : Small text small) (line : '\n' ∉ text) : '\n' ∉ small := by
  rw [← List.count_eq_zero] at line ⊢
  rw [h.count_newline, line]

theorem lastLine (h : Small text small) : Small (Text.lastLine text) (Text.lastLine small) := by
  have one := newline_notMem_lastLine text
  obtain whole | ⟨before, split⟩ := lastLine_cases text
  · rw [whole] at one ⊢
    rwa [lastLine_of_notMem (h.notMem_newline one)]
  · rw [split] at h
    obtain ⟨a, b, rfl, -, rest⟩ := h.of_append
    cases rest with
    | letter same later =>
      obtain rfl | ⟨sigma, -⟩ := same
      · rw [show lowerChar '\n' = ['\n'] by decide, List.singleton_append,
          lastLine_append_newline _ (later.notMem_newline one)]
        exact later
      · cases sigma

end Small

end CardGame.Text

namespace CardGame.Grammar

open Text (Part Small Lexeme TokenKind)

/-! ### Names and the placeholder -/

/-- A text and the same text with the placeholder for some of the names in it, and for how many. -/
inductive Renamed (name : List Char) : Nat → List Char → List Char → Prop where
  | done : Renamed name 0 [] []
  | kept {k : Nat} {text source : List Char} (c : Char) (later : Renamed name k text source) :
      Renamed name k (c :: text) (c :: source)
  | named {k : Nat} {text source : List Char} (later : Renamed name k text source) :
      Renamed name (k + 1) (name ++ text) (ownName.toList ++ source)

namespace Renamed

variable {name text source : List Char} {k : Nat}

theorem keep (front : List Char) (h : Renamed name k text source) :
    Renamed name k (front ++ text) (front ++ source) := by
  induction front with
  | nil => exact h
  | cons c front ih => exact .kept c ih

theorem cut {a b : List Char} (h : Renamed name k text (a ++ b))
    (outside : ∀ c ∈ b.head?, c ∉ ['A', 'M', 'E']) :
    ∃ front back i j, text = front ++ back ∧ k = i + j ∧ Renamed name i front a ∧
      Renamed name j back b := by
  generalize both : a ++ b = source at h
  induction h generalizing a with
  | done =>
    obtain ⟨rfl, rfl⟩ := List.append_eq_nil_iff.1 both
    exact ⟨[], [], 0, 0, rfl, rfl, .done, .done⟩
  | @kept k text source c later ih =>
    cases a with
    | nil =>
      obtain rfl : b = c :: source := both
      exact ⟨[], c :: text, 0, k, rfl, by omega, .done, .kept c later⟩
    | cons d a =>
      obtain ⟨rfl, rest⟩ := List.cons.inj both
      obtain ⟨front, back, i, j, rfl, rfl, first, second⟩ := ih rest
      exact ⟨d :: front, back, i, j, rfl, rfl, .kept d first, second⟩
  | @named k text source later ih =>
    obtain rfl | ⟨x, rfl, rest⟩ | ⟨p, x, q, y, rfl, inside, rest⟩ := Text.cut_cases both
    · rw [List.nil_append] at both
      exact ⟨[], name ++ text, 0, k + 1, rfl, by omega, .done, both ▸ .named later⟩
    · obtain ⟨front, back, i, j, rfl, rfl, first, second⟩ := ih rest.symm
      exact ⟨name ++ front, back, i + 1, j, by rw [List.append_assoc], by omega, .named first,
        second⟩
    · -- The cut would lie within the placeholder.
      have inner : ['A', 'M', 'E'] = x ++ q :: y := (List.cons.inj inside).2
      exact absurd (by rw [inner]; simp) (outside q (by rw [rest]; rfl))

theorem plain {a b : List Char} (h : Renamed name k text (a ++ b)) (small : 'N' ∉ a) :
    ∃ rest, text = a ++ rest ∧ Renamed name k rest b := by
  induction a generalizing text with
  | nil => exact ⟨text, rfl, h⟩
  | cons c a ih =>
    obtain ⟨other, others⟩ := not_or.1 (List.mem_cons.not.1 small)
    generalize whole : c :: a ++ b = source at h
    cases h with
    | done => cases whole
    | kept d later =>
      obtain ⟨rfl, rfl⟩ := List.cons.inj whole
      obtain ⟨rest, rfl, after⟩ := ih later others
      exact ⟨rest, rfl, after⟩
    | named later => exact absurd (List.cons.inj whole).1.symm other

theorem count_newline (h : Renamed name k text source) (line : '\n' ∉ name) :
    source.count '\n' = text.count '\n' := by
  induction h with
  | done => rfl
  | kept c later ih => rw [List.count_cons, List.count_cons, ih]
  | named later ih =>
    rw [List.count_append, List.count_append, ih, List.count_eq_zero.2 line]
    rfl

theorem byteSize_eq (h : Renamed name k text source) :
    Text.byteSize source + k * Text.byteSize name = Text.byteSize text + k * 4 := by
  induction h with
  | done => simp
  | kept c later ih =>
    rw [Text.byteSize_cons, Text.byteSize_cons]
    omega
  | named later ih =>
    have own : Text.byteSize ownName.toList = 4 := by decide
    rw [Text.byteSize_append, Text.byteSize_append, own, Nat.add_one_mul, Nat.add_one_mul]
    omega

theorem length_eq (h : Renamed name k text source) :
    source.length + k * name.length = text.length + k * 4 := by
  induction h with
  | done => simp
  | kept c later ih =>
    rw [List.length_cons, List.length_cons]
    omega
  | named later ih =>
    have own : ownName.toList.length = 4 := by decide
    rw [List.length_append, List.length_append, own, Nat.add_one_mul, Nat.add_one_mul]
    omega

theorem eq_zero_of_notInfix (h : Renamed name k text source) (none : ¬ name <:+: text) : k = 0 := by
  induction h with
  | done => rfl
  | kept c later ih => exact ih fun ⟨x, y, inside⟩ => none ⟨c :: x, y, by simp [← inside]⟩
  | named => exact absurd (List.prefix_append _ _).isInfix none

theorem byteSize_of_room (h : Renamed name k text source)
    (room : ¬ name <:+: text ∨ Text.byteSize name = 4) :
    Text.byteSize source = Text.byteSize text := by
  have same := h.byteSize_eq
  obtain none | four := room
  · obtain rfl := h.eq_zero_of_notInfix none
    omega
  · rw [four] at same
    omega

theorem length_of_room (h : Renamed name k text source)
    (room : ¬ name <:+: text ∨ name.length = 4) : source.length = text.length := by
  have same := h.length_eq
  obtain none | four := room
  · obtain rfl := h.eq_zero_of_notInfix none
    omega
  · rw [four] at same
    omega

theorem begins (h : Renamed name k text source) :
    source.head? = text.head? ∨ ∃ rest, source = 'N' :: rest := by
  cases h with
  | done | kept => exact .inl rfl
  | named => exact .inr ⟨_, rfl⟩

theorem notMem_newline (h : Renamed name k text source) (line : '\n' ∉ name)
    (one : '\n' ∉ source) : '\n' ∉ text := by
  rw [← List.count_eq_zero] at one ⊢
  rw [← h.count_newline line, one]

theorem lastLine (h : Renamed name k text source) (line : '\n' ∉ name) :
    ∃ i, Renamed name i (Text.lastLine text) (Text.lastLine source) := by
  have one := Text.newline_notMem_lastLine source
  obtain whole | ⟨before, split⟩ := Text.lastLine_cases source
  · rw [whole] at one ⊢
    exact ⟨k, by rwa [Text.lastLine_of_notMem (h.notMem_newline line one)]⟩
  · rw [split] at h
    obtain ⟨front, back, i, j, rfl, -, -, rest⟩ := h.cut (by simp)
    obtain ⟨after, rfl, last⟩ := plain (a := ['\n']) rest (by decide)
    refine ⟨j, ?_⟩
    rwa [List.singleton_append, Text.lastLine_append_newline _ (last.notMem_newline line one)]

end Renamed

theorem renamed_replaceName (first : Char) (others : List Char) (before : Option Char)
    (text : List Char) :
    ∃ k, Renamed (first :: others) k text
      (replaceName first others ownName.toList before text) := by
  fun_induction replaceName first others ownName.toList before text with
  | case1 before => exact ⟨0, .done⟩
  | case2 before c cs rest found ih =>
    obtain ⟨k, later⟩ := ih
    rw [dropBeginning?_eq_some_iff.1 found]
    split
    · exact ⟨k + 1, .named later⟩
    · exact ⟨k, later.keep (first :: others)⟩
  | case3 before c cs missed ih =>
    obtain ⟨k, later⟩ := ih
    exact ⟨k, .kept c later⟩

theorem renamed_sourceOf (text name : String) :
    ∃ k, Renamed (Text.lowerCase name).toList k (Text.lowerCase text).toList
      (sourceOf text name) := by
  rw [sourceOf]
  generalize (Text.lowerCase text).toList = lowered
  cases (Text.lowerCase name).toList with
  | nil => exact ⟨0, by simpa using @Renamed.keep [] [] [] 0 lowered .done⟩
  | cons first others => exact renamed_replaceName first others none lowered

theorem tiles_of_unexpected {text : String} {e : ParseError} {es : List Expectation}
    {found : TokenKind} (failed : parse text = .error e) (fault : e.fault = .unexpected es found)
    (inside : found ≠ .endOfInput) :
    ∃ ts, Text.Tiles 0 (sourceOf text (String.ofList (nameOf text.toList))) ts ∧
      (∀ t ∈ ts, ∀ f, t.kind ≠ .fault f) ∧ ⟨found, e.span⟩ ∈ ts ∧
      e.place = Text.placeAt (sourceOf text (String.ofList (nameOf text.toList))) e.span.start := by
  simp only [parse] at failed
  split at failed
  · cases failed
    cases fault
  generalize sourceOf text (String.ofList (nameOf text.toList)) = source at failed ⊢
  obtain ⟨ts, all, tiles⟩ := Text.tiles_tokensFrom 0 source
  split at failed
  · cases failed
    cases fault
  next faultless =>
    rw [firstFault?_eq_none_iff, all, List.map_append, List.forall_mem_append] at faultless
    refine ⟨ts, tiles, List.forall_mem_map.1 faultless.1, ?_⟩
    split at failed
    · cases failed
    next notes _ =>
      obtain rfl := Except.error.inj failed
      simp only [errorAt] at fault ⊢
      split at fault
      next t here =>
        cases fault
        refine ⟨?_, rfl⟩
        obtain listed | last := List.mem_append.1 (all ▸ List.mem_of_getElem? here)
        · exact listed
        · exact absurd (by rw [List.mem_singleton.1 last]) inside
      next =>
        cases fault
        exact absurd rfl inside

theorem newline_notMem_nameOf (text : List Char) : '\n' ∉ nameOf text := by
  by_cases nothing : nameOf text = []
  · simp [nothing]
  · exact (isName_nameOf nothing).line

theorem notMem_ownName {piece : List Char} {found : TokenKind} (lexeme : Lexeme piece found)
    (unnamed : ∀ w, found = .word w → ∀ c ∈ w.toList, c ∉ ownName.toList) {c : Char}
    (mem : c ∈ piece) :
    c ∉ ownName.toList := by
  intro own
  have letters : ownName.toList.all Char.isAlpha := by decide
  have isWord := (lexeme.word_of_letter mem (List.all_eq_true.1 letters c own)).1
  exact unnamed _ isWord c (by rwa [String.toList_ofList]) own

theorem exists_spelled {text name : String} {ts : List Text.Token} {t : Text.Token}
    (tiles : Text.Tiles 0 (sourceOf text name) ts) (faultless : ∀ t ∈ ts, ∀ f, t.kind ≠ .fault f)
    (mem : t ∈ ts) (unnamed : ∀ w, t.kind = .word w → ∀ c ∈ w.toList, c ∉ ownName.toList) :
    ∃ (a : Part text.toList) (b : Part (sourceOf text name)) (lowered : List Char) (names : Nat),
      b.span = t.span ∧ Lexeme b.piece t.kind ∧ Small a.piece b.piece ∧ Small a.before lowered ∧
      Renamed (Text.lowerCase name).toList names lowered b.before := by
  obtain ⟨b, same, lexeme, longest⟩ := tiles.mem_iff.1 mem
  have noDot : '\u0307' ∉ sourceOf text name :=
    tiles.notMem_of_faultless faultless (by decide) (by decide) (by decide)
  have small : Small text.toList (Text.lowerCase text).toList := by
    rw [Text.lowerCase, String.toList_ofList]
    exact Text.small_lowerAfter [] text.toList
  obtain ⟨k, renamed⟩ := renamed_sourceOf text name
  have inSource {c : Char} (mem : c ∈ b.piece ∨ c ∈ b.after) : c ∈ sourceOf text name := by
    rw [b.isWhole]
    obtain piece | after := mem
    · exact List.mem_append_left _ (List.mem_append_right _ piece)
    · exact List.mem_append_right _ after
  obtain ⟨p, more, first⟩ := List.exists_cons_of_ne_nil lexeme.ne_nil
  have head : p ∈ b.piece := first ▸ List.mem_cons_self
  rw [b.isWhole, List.append_assoc] at renamed
  obtain ⟨front, back, i, j, split, -, before, onward⟩ := renamed.cut (by
    intro c here
    obtain rfl : p = c := by simpa [first] using here
    have own := notMem_ownName lexeme unnamed head
    exact fun inner => own (List.mem_cons_of_mem 'N' inner))
  obtain ⟨rest, rfl, after⟩ :=
    onward.plain fun mem => notMem_ownName lexeme unnamed mem (by decide)
  rw [split] at small
  obtain ⟨x, yz, cutX, smallX, smallYZ⟩ := small.cut (by
    intro _ dot
    obtain rfl : p = '\u0307' := by simpa [first] using dot
    exact noDot (inSource (.inl head)))
  obtain ⟨y, z, rfl, smallY, smallZ⟩ := smallYZ.cut (by
    -- A dot after an i is in the source as well, or the placeholder goes on with the token.
    intro last dot
    obtain alike | ⟨remainder, follows⟩ := after.begins
    · exact noDot (inSource (.inr (List.mem_of_mem_head? (alike.trans dot))))
    · have noWord := longest.ends lexeme (List.mem_of_getLast? last) (by decide) follows
      exact absurd noWord (by decide))
  exact ⟨⟨x, y, z, by rw [cutX, List.append_assoc]⟩, b, front, i, same, lexeme, smallY,
    smallX, before⟩

/-- Where the token of an error stands in the text, and how the error points at it. -/
theorem error_points {text : String} {e : ParseError} {es : List Expectation} {found : TokenKind}
    (failed : parse text = .error e) (fault : e.fault = .unexpected es found)
    (inside : found ≠ .endOfInput)
    (unnamed : ∀ w, found = .word w → ∀ c ∈ w.toList, c ∉ ownName.toList) :
    let name := (Text.lowerCase (String.ofList (nameOf text.toList))).toList
    ∃ (a : Part text.toList) (token lowered read : List Char) (names : Nat),
      Small a.piece token ∧ Lexeme token found ∧
      Small a.before lowered ∧ Renamed name names lowered read ∧
      e.span = ⟨Text.byteSize read, Text.byteSize read + Text.byteSize token⟩ ∧
      e.span.start + names * Text.byteSize name = Text.byteSize lowered + names * 4 ∧
      e.place = ⟨read.count '\n' + 1, (Text.lastLine read).length + 1⟩ ∧
      e.place.line = (Text.placeAt text.toList a.span.start).line ∧
      ((∀ c ∈ a.before ++ a.piece, Text.byteSize (Text.lowerChar c) = c.utf8Size) →
        ¬ name <:+: lowered ∨ Text.byteSize name = 4 → e.span = a.span) ∧
      ((∀ c ∈ Text.lastLine a.before, (Text.lowerChar c).length = 1) →
        ¬ name <:+: Text.lastLine lowered ∨ name.length = 4 →
        e.place = Text.placeAt text.toList a.span.start) := by
  intro name
  obtain ⟨ts, tiles, faultless, listed, place⟩ := tiles_of_unexpected failed fault inside
  obtain ⟨a, b, lowered, names, span, lexeme, token, letters, renamed⟩ :=
    exists_spelled tiles faultless listed unnamed
  have line : '\n' ∉ name := by
    refine Text.newline_notMem_lowerCase ?_
    rw [String.toList_ofList]
    exact newline_notMem_nameOf text.toList
  change Renamed name names lowered b.before at renamed
  clear_value name
  replace span : e.span = b.span := span.symm
  have spanned : e.span =
      ⟨Text.byteSize b.before, Text.byteSize b.before + Text.byteSize b.piece⟩ := by
    rw [span, Part.span, Part.spanFrom, Nat.zero_add]
  have placed : e.place = ⟨b.before.count '\n' + 1, (Text.lastLine b.before).length + 1⟩ := by
    rw [place, span, b.placeAt_start]
  have inText := a.placeAt_start
  have lines : b.before.count '\n' = a.before.count '\n' := by
    rw [renamed.count_newline line, letters.count_newline]
  refine ⟨a, b.piece, lowered, b.before, names, token, lexeme, letters, renamed, spanned,
    ?_, placed, ?_, ?_, ?_⟩
  · simp only [spanned]
    exact renamed.byteSize_eq
  · rw [placed, inText, lines]
  · intro kept room
    have before := letters.byteSize_eq fun c mem => kept c (List.mem_append_left _ mem)
    have piece := token.byteSize_eq fun c mem => kept c (List.mem_append_right _ mem)
    have start := (renamed.byteSize_of_room room).trans before
    rw [spanned, Part.span, Part.spanFrom, start, piece, Nat.zero_add]
  · intro kept room
    obtain ⟨k, last⟩ := renamed.lastLine line
    have columns := (last.length_of_room room).trans (letters.lastLine.length_eq kept)
    rw [placed, inText, lines, columns]

/-- A name of three letters before a symbol that is none: the source holds the placeholder of four
letters, and the error lies one byte and one column behind the token. -/
def elfError : ParseError where
  fault := .unexpected [.one "essence", .word "q", .word "t", .one "number"] (.word "foo")
  span := ⟨6, 9⟩
  place := ⟨1, 7⟩

theorem error_points_elf :
    parse "Elf \x7bfoo\x7d\nUnit" = .error elfError ∧
    Text.placeAt "Elf \x7bfoo\x7d\nUnit".toList 5 = ⟨1, 6⟩ ∧
    ∃ (a : Part "Elf \x7bfoo\x7d\nUnit".toList) (token lowered : List Char) (names : Nat),
      Small a.piece token ∧ Lexeme token (.word "foo") ∧ Small a.before lowered ∧
      6 + names * 3 = Text.byteSize lowered + names * 4 ∧
      1 = (Text.placeAt "Elf \x7bfoo\x7d\nUnit".toList a.span.start).line := by
  have failed : parse "Elf \x7bfoo\x7d\nUnit" = .error elfError := by decide +kernel
  have apart : "foo".toList.all fun c => !ownName.toList.contains c := by decide
  have unnamed : ∀ w, TokenKind.word "foo" = .word w → ∀ c ∈ w.toList, c ∉ ownName.toList := by
    rintro w ⟨⟩ c mem
    simpa using List.all_eq_true.1 apart c mem
  obtain ⟨a, token, lowered, read, names, letters, lexeme, before, -, -, shift, -, line, -, -⟩ :=
    error_points failed rfl (by decide) unnamed
  have three : Text.byteSize (Text.lowerCase (String.ofList
      (nameOf "Elf \x7bfoo\x7d\nUnit".toList))).toList = 3 := by decide +kernel
  rw [three] at shift
  exact ⟨failed, by decide, a, token, lowered, names, letters, lexeme, before, shift, line⟩

end CardGame.Grammar
