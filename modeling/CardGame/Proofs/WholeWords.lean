import CardGame.Proofs.SourceLines

/-!
Names that are replaced where they stand alone. The words equal to a name are to be taken from the
left without overlap, and nothing else is to change. The search goes from hit to hit instead and
looks back only as far as the last hit, so that it may take a part of a word for the name, and pass
over a name that begins inside a hit. It does what it should exactly when no hit leads it astray.
-/

namespace CardGame.Grammar

/-! ### Whole words -/

/-- Neither the text before a place nor the one behind it goes on with a word there. -/
def StandsAlone (front rest : List Char) : Prop :=
  isBoundary front.getLast? ∧ isBoundary rest.head?

instance (front rest : List Char) : Decidable (StandsAlone front rest) :=
  inferInstanceAs (Decidable (_ ∧ _))

theorem standsAlone_append_iff {front gap rest : List Char} (some : gap ≠ []) :
    StandsAlone (front ++ gap) rest ↔ StandsAlone gap rest := by
  rw [StandsAlone, StandsAlone, List.getLast?_append_of_ne_nil _ some]

theorem StandsAlone.of_append {front gap rest : List Char} (h : StandsAlone (front ++ gap) rest) :
    StandsAlone gap rest := by
  cases gap with
  | nil => exact ⟨rfl, h.2⟩
  | cons c gap => exact (standsAlone_append_iff (List.cons_ne_nil c gap)).1 h

/-- A whole word equal to a name begins behind the front of a text. -/
def WordAt (name front text : List Char) : Prop :=
  ∃ rest, text = name ++ rest ∧ StandsAlone front rest

instance (name front text : List Char) : Decidable (WordAt name front text) :=
  decidable_of_iff (∃ rest ∈ dropBeginning? name text, StandsAlone front rest)
    (exists_congr fun _ => and_congr_left' dropBeginning?_eq_some_iff)

theorem wordAt_append_iff {name front rest : List Char} :
    WordAt name front (name ++ rest) ↔ StandsAlone front rest := by
  refine ⟨fun ⟨rest', same, alone⟩ => ?_, fun alone => ⟨rest, rfl, alone⟩⟩
  rwa [List.append_cancel_left same]

def Wordless (name front piece rest : List Char) : Prop :=
  ∀ x y, piece = x ++ y → y ≠ [] → ¬ WordAt name (front ++ x) (y ++ rest)

theorem wordless_nil {name front rest : List Char} : Wordless name front [] rest :=
  fun _ _ split some => absurd (List.append_eq_nil_iff.1 split.symm).2 some

theorem wordless_cons_iff {name front piece rest : List Char} {c : Char} :
    Wordless name front (c :: piece) rest ↔
      ¬ WordAt name front (c :: (piece ++ rest)) ∧ Wordless name (front ++ [c]) piece rest := by
  refine ⟨fun h => ⟨?_, fun x y split some => ?_⟩, fun ⟨here, later⟩ x y split some => ?_⟩
  · simpa using h [] (c :: piece) rfl (List.cons_ne_nil _ _)
  · simpa using h (c :: x) y (congrArg (c :: ·) split) some
  · cases x with
    | nil =>
      obtain rfl : c :: piece = y := split
      simpa using here
    | cons d x =>
      obtain ⟨rfl, same⟩ := List.cons.inj split
      simpa using later x y same some

instance Wordless.decidable (name : List Char) : (front piece rest : List Char) →
    Decidable (Wordless name front piece rest)
  | _, [], _ => isTrue wordless_nil
  | front, c :: piece, rest =>
    have := Wordless.decidable name (front ++ [c]) piece rest
    decidable_of_iff _ wordless_cons_iff.symm

/-- A placeholder stands for each whole word of a text that is equal to a name, from the left
without overlap, and all else is as it was. The front is what stands before the text. -/
inductive WordsReplaced (name placeholder : List Char) : (front text out : List Char) → Prop where
  | done {front : List Char} : WordsReplaced name placeholder front [] []
  | word {front rest out : List Char} (alone : StandsAlone front rest)
      (later : WordsReplaced name placeholder (front ++ name) rest out) :
      WordsReplaced name placeholder front (name ++ rest) (placeholder ++ out)
  | other {front text out : List Char} {c : Char} (none : ¬ WordAt name front (c :: text))
      (later : WordsReplaced name placeholder (front ++ [c]) text out) :
      WordsReplaced name placeholder front (c :: text) (c :: out)

section

variable {name placeholder front gap rest text out : List Char}

theorem wordsReplaced_nil_iff (some : name ≠ []) :
    WordsReplaced name placeholder front [] out ↔ out = [] := by
  refine ⟨fun h => ?_, fun none => by rw [none]; exact .done⟩
  generalize whole : [] = text at h
  cases h with
  | done => rfl
  | word => exact absurd (List.append_eq_nil_iff.1 whole.symm).1 some
  | other => cases whole

theorem wordsReplaced_word_iff (some : name ≠ []) (alone : StandsAlone front rest) :
    WordsReplaced name placeholder front (name ++ rest) out ↔
      ∃ later, out = placeholder ++ later ∧
        WordsReplaced name placeholder (front ++ name) rest later := by
  refine ⟨fun h => ?_, fun ⟨later, whole, h⟩ => whole ▸ .word alone h⟩
  generalize whole : name ++ rest = text at h
  cases h with
  | done => exact absurd (List.append_eq_nil_iff.1 whole).1 some
  | word alone later =>
    obtain rfl := List.append_cancel_left whole
    exact ⟨_, rfl, later⟩
  | other none => exact absurd ⟨rest, whole.symm, alone⟩ none

theorem wordsReplaced_other_iff {c : Char} (none : ¬ WordAt name front (c :: text)) :
    WordsReplaced name placeholder front (c :: text) out ↔
      ∃ later, out = c :: later ∧ WordsReplaced name placeholder (front ++ [c]) text later := by
  refine ⟨fun h => ?_, fun ⟨later, whole, h⟩ => whole ▸ .other none h⟩
  generalize whole : c :: text = text' at h
  cases h with
  | done => cases whole
  | word alone => exact absurd ⟨_, whole, alone⟩ none
  | other _ later =>
    obtain ⟨rfl, rfl⟩ := List.cons.inj whole
    exact ⟨_, rfl, later⟩

theorem existsUnique_wordsReplaced (some : name ≠ []) :
    ∃! out, WordsReplaced name placeholder front text out := by
  induction size : text.length using Nat.strongRecOn generalizing front text with
  | ind n ih =>
    by_cases word : WordAt name front text
    · obtain ⟨rest, rfl, alone⟩ := word
      have shorter : rest.length < n := by
        have := List.length_pos_iff.2 some
        rw [List.length_append] at size
        omega
      obtain ⟨later, h, unique⟩ : ∃! out, WordsReplaced name placeholder (front ++ name) rest out :=
        ih _ shorter rfl
      refine ⟨placeholder ++ later, .word alone h, fun out own => ?_⟩
      obtain ⟨other, rfl, h'⟩ := (wordsReplaced_word_iff some alone).1 own
      rw [unique other h']
    · cases text with
      | nil => exact ⟨[], .done, fun out own => (wordsReplaced_nil_iff some).1 own⟩
      | cons c text =>
        obtain ⟨later, h, unique⟩ : ∃! out,
            WordsReplaced name placeholder (front ++ [c]) text out :=
          ih text.length (size ▸ Nat.lt_succ_self _) rfl
        refine ⟨c :: later, .other word h, fun out own => ?_⟩
        obtain ⟨other, rfl, h'⟩ := (wordsReplaced_other_iff word).1 own
        rw [unique other h']

theorem wordsReplaced_append_iff {piece : List Char} (none : Wordless name front piece rest) :
    WordsReplaced name placeholder front (piece ++ rest) out ↔
      ∃ later, out = piece ++ later ∧ WordsReplaced name placeholder (front ++ piece) rest
        later := by
  induction piece generalizing front out with
  | nil => simp
  | cons c piece ih =>
    obtain ⟨here, none⟩ := wordless_cons_iff.1 none
    rw [List.cons_append, wordsReplaced_other_iff here]
    simp only [ih none, List.append_assoc, List.singleton_append]
    exact ⟨fun ⟨_, whole, later, whole', h⟩ => ⟨later, whole ▸ congrArg (c :: ·) whole', h⟩,
      fun ⟨later, whole, h⟩ => ⟨_, whole, later, rfl, h⟩⟩

theorem wordless_of_kept {piece marks : List Char} {mark : Char} (fresh : mark ∉ piece)
    (some : name ≠ [])
    (kept : WordsReplaced name (mark :: marks) front (piece ++ rest) (piece ++ out)) :
    Wordless name front piece rest := by
  induction piece generalizing front with
  | nil => exact wordless_nil
  | cons c piece ih =>
    obtain ⟨other, fresh⟩ := not_or.1 (List.mem_cons.not.1 fresh)
    have here : ¬ WordAt name front (c :: (piece ++ rest)) := fun ⟨rest', same, alone⟩ => by
      rw [List.cons_append, same, wordsReplaced_word_iff some alone] at kept
      obtain ⟨later, whole, -⟩ := kept
      exact other (List.cons.inj whole).1.symm
    obtain ⟨later, whole, h⟩ := (wordsReplaced_other_iff here).1 kept
    obtain rfl := (List.cons.inj whole).2
    exact wordless_cons_iff.2 ⟨here, ih fresh h⟩

end

/-! ### Hits -/

structure NextHit (name text gap rest : List Char) : Prop where
  whole : text = gap ++ (name ++ rest)
  leftmost : ∀ gap' rest', text = gap' ++ (name ++ rest') → gap.length ≤ gap'.length

/-- The hits of a name in a text behind its front, each found in what follows the one before it:
what has been passed by then, the gap that follows it, and the rest behind the hit. -/
inductive Hit (name : List Char) : (front text passed gap rest : List Char) → Prop where
  | next {front text gap rest : List Char} (h : NextHit name text gap rest) :
      Hit name front text front gap rest
  | later {front text gap rest passed gap' rest' : List Char} (h : NextHit name text gap rest)
      (h' : Hit name (front ++ gap ++ name) rest passed gap' rest') : Hit name front text passed
        gap' rest'

/-- A hit that does not lead astray, though only the gap before it is looked at: if it is taken for
a word, it is one, and if it is passed over, no word begins in it. -/
def Judged (name passed gap rest : List Char) : Prop :=
  if StandsAlone gap rest then StandsAlone (passed ++ gap) rest
  else Wordless name (passed ++ gap) name rest

instance (name passed gap rest : List Char) : Decidable (Judged name passed gap rest) :=
  inferInstanceAs (Decidable (if StandsAlone gap rest then _ else _))

def WellJudged (name front text : List Char) : Prop :=
  ∀ passed gap rest, Hit name front text passed gap rest → Judged name passed gap rest

section

variable {name front text passed gap rest : List Char}

theorem NextHit.unique {gap' rest' : List Char} (h : NextHit name text gap rest)
    (h' : NextHit name text gap' rest') : gap = gap' ∧ rest = rest' := by
  have size := Nat.le_antisymm (h.leftmost _ _ h'.whole) (h'.leftmost _ _ h.whole)
  obtain ⟨same, behind⟩ := List.append_inj (h.whole.symm.trans h'.whole) size
  exact ⟨same, List.append_cancel_left behind⟩

theorem nextHit_nil_iff : NextHit name text [] rest ↔ text = name ++ rest :=
  ⟨fun h => h.whole, fun whole => ⟨whole, fun _ _ _ => Nat.zero_le _⟩⟩

theorem nextHit_cons_iff {c d : Char} :
    NextHit name (d :: text) (c :: gap) rest ↔
      d = c ∧ dropBeginning? name (d :: text) = none ∧ NextHit name text gap rest := by
  refine ⟨fun ⟨whole, leftmost⟩ => ?_, ?_⟩
  · obtain ⟨same, whole⟩ := List.cons.inj whole
    refine ⟨same, Option.eq_none_iff_forall_ne_some.2 fun rest' found => ?_, whole, ?_⟩
    · have starts : d :: text = name ++ rest' := dropBeginning?_eq_some_iff.1 found
      exact Nat.not_succ_le_zero _ (leftmost [] rest' starts)
    · exact fun gap' rest' same =>
        Nat.le_of_succ_le_succ (leftmost (d :: gap') rest' (congrArg (d :: ·) same))
  · rintro ⟨rfl, missed, whole, leftmost⟩
    refine ⟨congrArg (d :: ·) whole, fun gap' rest' same => ?_⟩
    cases gap' with
    | nil =>
      have starts : d :: text = name ++ rest' := same
      rw [dropBeginning?_eq_some_iff.2 starts] at missed
      cases missed
    | cons _ gap' => exact Nat.succ_le_succ (leftmost gap' rest' (List.cons.inj same).2)

instance NextHit.decidable (name : List Char) : (text gap rest : List Char) →
    Decidable (NextHit name text gap rest)
  | _, [], _ => decidable_of_iff _ nextHit_nil_iff.symm
  | [], _ :: _, _ => isFalse fun h => nomatch h.whole
  | _ :: text, _ :: gap, rest =>
    have := NextHit.decidable name text gap rest
    decidable_of_iff _ nextHit_cons_iff.symm

theorem exists_nextHit (occurs : name <:+: text) : ∃ gap rest, NextHit name text gap rest := by
  induction text with
  | nil =>
    obtain rfl := List.infix_nil.1 occurs
    exact ⟨[], [], nextHit_nil_iff.2 rfl⟩
  | cons c text ih =>
    cases found : dropBeginning? name (c :: text) with
    | some rest => exact ⟨[], rest, nextHit_nil_iff.2 (dropBeginning?_eq_some_iff.1 found)⟩
    | none =>
      obtain ⟨rest, same⟩ | later := List.infix_cons_iff.1 occurs
      · rw [dropBeginning?_eq_some_iff.2 same.symm] at found
        cases found
      · obtain ⟨gap, rest, h⟩ := ih later
        exact ⟨c :: gap, rest, nextHit_cons_iff.2 ⟨rfl, found, h⟩⟩

theorem NextHit.wordless (h : NextHit name text gap rest) :
    Wordless name front gap (name ++ rest) := by
  rintro x y rfl some ⟨rest', same, -⟩
  have size := h.leftmost x rest' (by rw [h.whole, List.append_assoc, same])
  have := List.length_pos_iff.2 some
  rw [List.length_append] at size
  omega

theorem NextHit.shorter (h : NextHit name text gap rest) (some : name ≠ []) :
    rest.length < text.length := by
  have := List.length_pos_iff.2 some
  rw [h.whole, List.length_append, List.length_append]
  omega

/-- Induction along the hits of a name in a text behind its front. -/
@[elab_as_elim]
theorem hit_induction (some : name ≠ []) {motive : (front text : List Char) → Prop}
    (none : ∀ front text, ¬ name <:+: text → motive front text)
    (next : ∀ front text gap rest, NextHit name text gap rest → motive (front ++ gap ++ name) rest →
      motive front text) (front text : List Char) : motive front text := by
  induction size : text.length using Nat.strongRecOn generalizing front text with
  | ind n ih =>
    by_cases occurs : name <:+: text
    · obtain ⟨gap, rest, h⟩ := exists_nextHit occurs
      exact next front text gap rest h (ih _ (size ▸ h.shorter some) _ _ rfl)
    · exact none front text occurs

theorem wellJudged_iff (h : NextHit name text gap rest) :
    WellJudged name front text ↔
      Judged name front gap rest ∧ WellJudged name (front ++ gap ++ name) rest := by
  refine ⟨fun all => ⟨all _ _ _ (.next h), fun _ _ _ h' => all _ _ _ (.later h h')⟩, ?_⟩
  rintro ⟨own, others⟩ passed gap' rest' (h' | ⟨h', later⟩)
  · obtain ⟨rfl, rfl⟩ := h.unique h'
    exact own
  · obtain ⟨rfl, rfl⟩ := h.unique h'
    exact others _ _ _ later

theorem wellJudged_of_notInfix (none : ¬ name <:+: text) : WellJudged name front text := by
  rintro passed gap rest (h | ⟨h, -⟩)
  all_goals exact absurd ⟨_, _, (h.whole.trans (List.append_assoc _ _ _).symm).symm⟩ none

theorem Hit.split (h : Hit name front text passed gap rest) :
    ∃ between, passed = front ++ between ∧ text = between ++ gap ++ (name ++ rest) ∧
      (between = [] ∨ name <:+ between) := by
  induction h with
  | next h => exact ⟨[], (List.append_nil _).symm, h.whole, .inl rfl⟩
  | @later front text gap rest passed gap' rest' h h' ih =>
    obtain ⟨between, rfl, whole, ends⟩ := ih
    refine ⟨gap ++ name ++ between, by simp, by simp [h.whole, whole], .inr ?_⟩
    obtain rfl | ends := ends
    · exact ⟨gap, (List.append_nil _).symm⟩
    · exact ends.trans (List.suffix_append _ _)

end

/-! ### The search -/

section

variable {first : Char} {others placeholder text gap rest : List Char}

theorem replaceName_of_notInfix (none : ¬ (first :: others) <:+: text) (before : Option Char) :
    replaceName first others placeholder before text = text := by
  induction text generalizing before with
  | nil => rw [replaceName]
  | cons c text ih =>
    have missed : dropBeginning? (first :: others) (c :: text) = .none :=
      Option.eq_none_iff_forall_ne_some.2 fun rest found =>
        none ⟨[], rest, (dropBeginning?_eq_some_iff.1 found).symm⟩
    rw [replaceName_of_missed _ _ missed, ih fun later => none (List.infix_cons later)]

theorem replaceName_of_nextHit (h : NextHit (first :: others) text gap rest) :
    replaceName first others placeholder none text =
      gap ++ ((if StandsAlone gap rest then placeholder else first :: others) ++
        replaceName first others placeholder none rest) := by
  have general (before : Option Char) :
      replaceName first others placeholder before text =
        gap ++ ((if isBoundary (gap.getLast?.or before) && isBoundary rest.head? then placeholder
          else first :: others) ++ replaceName first others placeholder none rest) := by
    induction gap generalizing text before with
    | nil =>
      rw [h.whole]
      exact replaceName_of_found _ _ (dropBeginning?_eq_some_iff.2 rfl)
    | cons c gap ih =>
      obtain _ | ⟨d, text⟩ := text
      · cases h.whole
      obtain ⟨rfl, missed, h⟩ := nextHit_cons_iff.1 h
      rw [replaceName_of_missed _ _ missed, ih h, List.cons_append, List.getLast?_cons]
      cases gap.getLast? <;> rfl
  have alone : (isBoundary (gap.getLast?.or none) && isBoundary rest.head?) = true ↔
      StandsAlone gap rest := by
    rw [Option.or_none, Bool.and_eq_true, StandsAlone]
  rw [general none, if_congr alone rfl rfl]

/-- A hit that does not lead astray leaves the search and the whole words in step. -/
theorem Judged.wordsReplaced_iff {name front text gap rest placeholder out : List Char}
    (judged : Judged name front gap rest) (h : NextHit name text gap rest) (some : name ≠ []) :
    WordsReplaced name placeholder front text
        (gap ++ ((if StandsAlone gap rest then placeholder else name) ++ out)) ↔
      WordsReplaced name placeholder (front ++ gap ++ name) rest out := by
  rw [h.whole, wordsReplaced_append_iff h.wordless]
  unfold Judged at judged
  split at judged
  next alone =>
    simp [alone, wordsReplaced_word_iff some judged]
  next passed =>
    simp [passed, wordsReplaced_append_iff judged]

theorem wordsReplaced_of_wellJudged {front : List Char}
    (judged : WellJudged (first :: others) front text) :
    WordsReplaced (first :: others) placeholder front text
      (replaceName first others placeholder none text) := by
  induction front, text using hit_induction (List.cons_ne_nil first others) with
  | none front text absent =>
    have wordless : Wordless (first :: others) front text [] := fun x y split _ ⟨rest, same, _⟩ =>
      absent ⟨x, rest, by rw [split, List.append_assoc, ← same, List.append_nil]⟩
    have kept : WordsReplaced (first :: others) placeholder front (text ++ []) text :=
      (wordsReplaced_append_iff wordless).2 ⟨[], (List.append_nil text).symm, .done⟩
    rw [replaceName_of_notInfix absent]
    rwa [List.append_nil] at kept
  | next front text gap rest h ih =>
    obtain ⟨own, judged⟩ := (wellJudged_iff h).1 judged
    rw [replaceName_of_nextHit h, own.wordsReplaced_iff h (List.cons_ne_nil _ _)]
    exact ih judged

theorem judged_of_next {front marks out : List Char} {mark : Char}
    (h : NextHit (first :: others) text gap rest) (fresh : mark ∉ first :: others)
    (replaced : WordsReplaced (first :: others) (mark :: marks) front text
      (gap ++ ((if StandsAlone gap rest then mark :: marks else first :: others) ++ out))) :
    Judged (first :: others) front gap rest := by
  rw [h.whole, wordsReplaced_append_iff h.wordless] at replaced
  obtain ⟨later, whole, replaced⟩ := replaced
  obtain rfl := List.append_cancel_left whole
  unfold Judged
  split
  next alone =>
    rw [if_pos alone] at replaced
    by_contra astray
    obtain ⟨_, same, -⟩ := (wordsReplaced_other_iff (wordAt_append_iff.not.2 astray)).1 replaced
    exact fresh ((List.cons.inj same).1 ▸ List.mem_cons_self)
  next passed =>
    rw [if_neg passed] at replaced
    exact wordless_of_kept fresh (List.cons_ne_nil _ _) replaced

theorem wellJudged_of_wordsReplaced {front marks : List Char} {mark : Char} (fresh : mark ∉ text)
    (replaced : WordsReplaced (first :: others) (mark :: marks) front text
      (replaceName first others (mark :: marks) none text)) :
    WellJudged (first :: others) front text := by
  induction front, text using hit_induction (List.cons_ne_nil first others) with
  | none front text absent => exact wellJudged_of_notInfix absent
  | next front text gap rest h ih =>
    have fresh : mark ∉ first :: others ∧ mark ∉ rest := by
      rw [h.whole, List.mem_append, List.mem_append, not_or, not_or] at fresh
      exact fresh.2
    rw [replaceName_of_nextHit h] at replaced
    have own := judged_of_next h fresh.1 replaced
    rw [own.wordsReplaced_iff h (List.cons_ne_nil _ _)] at replaced
    exact (wellJudged_iff h).2 ⟨own, ih fresh.2 replaced⟩

end

/-! ### Names that are always found -/

/-- A name that does not begin again at a later word of its own. -/
def Steady (name : List Char) : Prop :=
  ∀ x y, name = x ++ y → x ≠ [] → y ≠ [] → isBoundary x.getLast? → ¬ y <+: name

theorem steady_of_word {name : List Char} (word : name.all Text.isWordCharacter) : Steady name := by
  rintro x y rfl some - ends -
  have inside := List.all_eq_true.1 word _ (List.mem_append_left y (List.getLast_mem some))
  simp [isBoundary, List.getLast?_eq_some_getLast some, inside] at ends

theorem wellJudged_of_steady {name text : List Char} (some : name ≠ []) (steady : Steady name)
    (apart : isBoundary name.getLast? ∨ ¬ name ++ name <:+: text) : WellJudged name [] text := by
  intro passed gap rest h
  obtain ⟨between, rfl, rfl, ends⟩ := h.split
  unfold Judged
  split
  next alone =>
    cases gap with
    | cons c gap => exact (standsAlone_append_iff (List.cons_ne_nil c gap)).2 alone
    | nil =>
      refine ⟨?_, alone.2⟩
      rw [List.append_nil]
      obtain rfl | ⟨earlier, rfl⟩ := ends
      · rfl
      · obtain boundary | once := apart
        · rwa [List.getLast?_append_of_ne_nil _ some]
        · exact absurd ⟨earlier, rest, by simp⟩ once
  next passed =>
    rintro x y rfl more ⟨rest', same, ends, follows⟩
    by_cases start : x = []
    · subst start
      obtain rfl := List.append_cancel_left same
      rw [List.append_nil] at ends
      exact passed (StandsAlone.of_append ⟨ends, follows⟩)
    · rw [List.getLast?_append_of_ne_nil _ start] at ends
      refine steady x y rfl start more ends ?_
      exact List.prefix_of_prefix_length_le ⟨rest, rfl⟩ ⟨rest', same.symm⟩ (by simp)

theorem exists_wordCharacter_ne (c d : Char) : ∃ e, Text.isWordCharacter e ∧ e ≠ c ∧ e ≠ d := by
  have distinct : 'a' ≠ 'b' ∧ 'a' ≠ 'e' ∧ 'b' ≠ 'e' := by decide
  by_cases a : 'a' ≠ c ∧ 'a' ≠ d
  · exact ⟨'a', by decide, a⟩
  by_cases b : 'b' ≠ c ∧ 'b' ≠ d
  · exact ⟨'b', by decide, b⟩
  · exact ⟨'e', by decide, by grind⟩

/-- A name is found rightly in every text just if it does not end in a letter and is steady. -/
theorem replacesAlways_iff {first mark : Char} {others marks : List Char}
    (fresh : mark ∉ first :: others) :
    (∀ text, mark ∉ text → WordsReplaced (first :: others) (mark :: marks) [] text
      (replaceName first others (mark :: marks) none text)) ↔
    isBoundary (first :: others).getLast? ∧ Steady (first :: others) := by
  have some : first :: others ≠ [] := List.cons_ne_nil _ _
  refine ⟨fun always => ⟨?_, fun x y split begins more ends again => ?_⟩,
    fun ⟨ends, steady⟩ text _ => ?_⟩
  · -- The name twice in a row.
    have absent : mark ∉ first :: others ++ first :: others :=
      fun mem => (List.mem_append.1 mem).elim fresh fresh
    have hit :
        Hit (first :: others) [] (first :: others ++ first :: others) (first :: others) [] [] :=
      .later (nextHit_nil_iff.2 rfl) (.next (nextHit_nil_iff.2 (List.append_nil _).symm))
    have judged := wellJudged_of_wordsReplaced absent (always _ absent) _ _ _ hit
    rw [Judged, if_pos (by decide), List.append_nil] at judged
    exact judged.1
  · -- The name behind the part of it that ends a word, glued to a letter.
    obtain ⟨c, letter, other, unmarked⟩ := exists_wordCharacter_ne first mark
    obtain ⟨z, whole⟩ := again
    have absent : mark ∉ c :: (first :: others ++ z) := by
      have inside : mark ∉ z := fun mem => fresh (whole ▸ List.mem_append_right y mem)
      exact List.not_mem_cons_of_ne_of_not_mem (Ne.symm unmarked)
        fun mem => (List.mem_append.1 mem).elim fresh inside
    have hit : Hit (first :: others) [] (c :: (first :: others ++ z)) [] [c] z :=
      .next (nextHit_cons_iff.2
        ⟨rfl, by simp [dropBeginning?, Ne.symm other], nextHit_nil_iff.2 rfl⟩)
    have judged := wellJudged_of_wordsReplaced absent (always _ absent) _ _ _ hit
    rw [Judged, if_neg (by simp [StandsAlone, isBoundary, letter])] at judged
    refine judged x y split more ⟨[], ?_, ?_, rfl⟩
    · rw [whole, List.append_nil]
    · rwa [List.getLast?_append_of_ne_nil _ begins]
  · exact wordsReplaced_of_wellJudged (wellJudged_of_steady some steady (.inl ends))

/-! ### The source of a text -/

/-- The whole words equal to a name are all replaced, and nothing else, when no hit leads astray;
and only then, if the text does not hold the letter that the placeholder begins with. -/
theorem wordsReplaced_iff_wellJudged (first : Char) (others placeholder text : List Char) :
    (WellJudged (first :: others) [] text →
      WordsReplaced (first :: others) placeholder [] text
        (replaceName first others placeholder none text)) ∧
    ∀ mark ∈ placeholder.head?, mark ∉ text →
      WordsReplaced (first :: others) placeholder [] text
        (replaceName first others placeholder none text) →
      WellJudged (first :: others) [] text := by
  refine ⟨wordsReplaced_of_wellJudged, fun mark begins fresh replaced => ?_⟩
  cases placeholder with
  | nil => cases begins
  | cons c marks =>
    obtain rfl := Option.some.inj begins
    exact wellJudged_of_wordsReplaced fresh replaced

/-- Elves are told from what is elfish. But the hit that begins in a conjunction hides the name
behind it. -/
theorem wordsReplaced_iff_wellJudged_elf :
    WellJudged "elf".toList [] "elf\nunit\nwhen elf is dealt damage, elfish.".toList ∧
    WordsReplaced "elf".toList ownName.toList []
      "elf\nunit\nwhen elf is dealt damage, elfish.".toList
      "NAME\nunit\nwhen NAME is dealt damage, elfish.".toList ∧
    'N' ∈ ownName.toList.head? ∧ 'N' ∉ "d d\nspell\ndestroy a unit and d d.".toList ∧
    ¬ WordsReplaced "d d".toList ownName.toList [] "d d\nspell\ndestroy a unit and d d.".toList
      "NAME\nspell\ndestroy a unit and d d.".toList := by
  have elf : WellJudged "elf".toList [] "elf\nunit\nwhen elf is dealt damage, elfish.".toList :=
    wellJudged_of_steady (by decide) (steady_of_word (by decide)) (.inr (by decide +kernel))
  have begins : 'N' ∈ ownName.toList.head? := by decide
  have fresh : 'N' ∉ "d d\nspell\ndestroy a unit and d d.".toList := by decide +kernel
  refine ⟨elf, ?_, begins, fresh, fun replaced => ?_⟩
  · have replaced := (wordsReplaced_iff_wellJudged 'e' ['l', 'f'] ownName.toList _).1 elf
    rwa [show replaceName 'e' ['l', 'f'] ownName.toList none
        "elf\nunit\nwhen elf is dealt damage, elfish.".toList =
      "NAME\nunit\nwhen NAME is dealt damage, elfish.".toList by decide +kernel] at replaced
  · have out : replaceName 'd' [' ', 'd'] ownName.toList none
        "d d\nspell\ndestroy a unit and d d.".toList =
      "NAME\nspell\ndestroy a unit and d d.".toList := by decide +kernel
    have judged := (wordsReplaced_iff_wellJudged 'd' [' ', 'd'] ownName.toList _).2 'N' begins fresh
      (by rw [out]; exact replaced)
    have own : NextHit "d d".toList "d d\nspell\ndestroy a unit and d d.".toList []
        "\nspell\ndestroy a unit and d d.".toList := by decide +kernel
    have hit : NextHit "d d".toList "\nspell\ndestroy a unit and d d.".toList
        "\nspell\ndestroy a unit an".toList " d.".toList := by decide +kernel
    exact absurd (judged _ _ _ (.later own (.next hit))) (by decide +kernel)

theorem wordsReplaced_sourceOf_iff {text name : String} (some : (Text.lowerCase name).toList ≠ []) :
    WordsReplaced (Text.lowerCase name).toList ownName.toList [] (Text.lowerCase text).toList
        (sourceOf text name) ↔
      WellJudged (Text.lowerCase name).toList [] (Text.lowerCase text).toList := by
  unfold sourceOf
  split
  next missing => exact absurd missing some
  next first others own =>
    rw [own]
    have fresh : 'N' ∉ (Text.lowerCase text).toList := Text.capital_notMem_lowerCase rfl text
    exact ⟨wellJudged_of_wordsReplaced fresh, wordsReplaced_of_wellJudged⟩

end CardGame.Grammar
