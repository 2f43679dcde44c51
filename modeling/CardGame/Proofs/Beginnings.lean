import CardGame.Grammar.Match
import CardGame.Proofs.Outcome
import CardGame.Proofs.Spelling

/-!
What the productions of the grammar begin with. Single words, numbers and lists are read back from
their tokens; a production fails before every token that it cannot begin with.
-/

namespace CardGame.Grammar

open CardGame.Grammar.Parser
open Text (TokenKind enumerated further)

/-! ### Uniformity -/

instance : Uniform quantity := uniform_token rfl fun _ => rfl

instance : Uniform stats := by unfold stats; infer_instance

instance : Uniform costSymbol := by unfold costSymbol; infer_instance

instance : Uniform kindWord := by unfold kindWord; infer_instance

instance : Uniform subtype := by unfold subtype; infer_instance

instance : Uniform keyword := by unfold keyword; infer_instance

instance : Uniform color := by unfold color; infer_instance

instance : Uniform non := by unfold non; infer_instance

instance : Uniform trait := by unfold trait; infer_instance

instance : Uniform stat := by unfold stat; infer_instance

instance : Uniform direction := by unfold direction; infer_instance

instance : Uniform leading := by unfold leading; infer_instance

instance : Uniform trailing := by unfold trailing; infer_instance

instance : Uniform lacking := by unfold lacking; infer_instance

instance : Uniform possessive := by unfold possessive; infer_instance

instance : Uniform selector := by unfold selector; infer_instance

section Inner

variable {α : Type} (item : Parser α) [item.Uniform] (inner : Parser CardMatch) [inner.Uniform]

instance (conjunctions : List String) : Uniform (furtherItems conjunctions item) := by
  unfold furtherItems; infer_instance

instance (conjunctions : List String) : Uniform (enumeration conjunctions item) := by
  unfold enumeration; infer_instance

instance : Uniform (count inner) := by unfold count; infer_instance

instance : Uniform (comparison inner) := by unfold comparison; infer_instance

instance : Uniform (having inner) := by unfold having; infer_instance

instance : Uniform (targetingClause inner) := by unfold targetingClause; infer_instance

instance : Uniform (description inner) := by unfold description; infer_instance

instance : Uniform (cardFilter inner) := by unfold cardFilter; infer_instance

instance : Uniform (alternative inner) := by unfold alternative; infer_instance

end Inner

instance (room : Nat) : Uniform (cardMatchWithin room) := by
  induction room with
  | zero => unfold cardMatchWithin; infer_instance
  | succ room ih => unfold cardMatchWithin; infer_instance

instance : Uniform cardMatch := by unfold cardMatch; infer_instance

instance : Uniform playerAlternative := by unfold playerAlternative; infer_instance

instance : Uniform playerMatch := by unfold playerMatch; infer_instance

instance : Uniform anyMatch := by unfold anyMatch; infer_instance

instance : Uniform zone := by unfold zone; infer_instance

instance : Uniform zoneMatch := by unfold zoneMatch; infer_instance

/-! ### Single words -/

theorem reads_quantity (q : Quantity) (ks : List TokenKind) :
    quantity.reads (q.kind :: ks) = some (q, ks) := by
  rw [quantity, reads_token]
  cases q <;> rfl

@[simp] theorem reads_stats (s : Stats) (ks : List TokenKind) :
    stats.reads (s.spelled ++ ks) = some (s, ks) := by
  simp [stats, Stats.spelled, reads_quantity]

theorem reads_kindWord (k : KindWord) (ks : List TokenKind) :
    kindWord.reads (.word k.text :: ks) = some (k, ks) := by
  simp [kindWord, KindWord.ofWord?_text]

theorem reads_keyword (k : Keyword) (ks : List TokenKind) :
    keyword.reads (.word k.word :: ks) = some (k, ks) := by
  simp [keyword, Keyword.ofWord?_word]

theorem ofWord?_traitWord {w : String} (h : w ∈ ["non", "activated", "deactivated", "a", "x"]) :
    Color.ofWord? w = none ∧ KindWord.ofWord? w = none := by
  simp only [List.mem_cons, List.not_mem_nil, or_false] at h
  rcases h with rfl | rfl | rfl | rfl | rfl <;> decide

theorem Color.ofWord?_kind (k : KindWord) : Color.ofWord? k.text = none := by
  rcases k with ⟨k, plural⟩
  cases k <;> cases plural <;> decide

theorem kind_text_ne_non (k : KindWord) : k.text ≠ "non" := by
  rcases k with ⟨k, plural⟩
  cases k <;> cases plural <;> decide

theorem reads_trait (t : Trait) (ks : List TokenKind) :
    trait.reads (t.spelled ++ ks) = some (t, ks) := by
  have words {w : String} := @ofWord?_traitWord w
  have color_quantity (q : Quantity) (ks : List TokenKind) : color.reads (q.kind :: ks) = none := by
    cases q <;> simp [color, Quantity.kind, words, wordAs, reads_token]
  have kind_quantity (q : Quantity) (ks : List TokenKind) : kindWord.reads (q.kind :: ks) =
      none := by
    cases q <;> simp [kindWord, Quantity.kind, words, wordAs, reads_token]
  have notWord (q : Quantity) {w : String} (h : w ≠ "a") (h' : w ≠ "x") : q.kind ≠ .word w := by
    cases q <;> simp [Quantity.kind, Ne.symm h, Ne.symm h']
  cases t with
  | color c => simp [trait, Trait.spelled, color, Color.ofWord?_word]
  | nonColor c => simp [trait, Trait.spelled, non, color, words, Color.ofWord?_word]
  | kind k =>
    simp [trait, Trait.spelled, non, color, kindWord, Color.ofWord?_kind, kind_text_ne_non,
      KindWord.ofWord?_text]
  | nonKind k =>
    simp [trait, Trait.spelled, non, color, kindWord, words, Color.ofWord?_kind,
      KindWord.ofWord?_text]
  | activated => simp [trait, Trait.spelled, non, color, kindWord, words]
  | deactivated => simp [trait, Trait.spelled, non, color, kindWord, words]
  | stats s =>
    have whole := reads_stats s ks
    simp only [Stats.spelled, List.cons_append, List.nil_append] at whole
    simp [trait, Trait.spelled, Stats.spelled, non, color_quantity, kind_quantity, notWord, whole]

/-! ### Lists -/

section Lists

variable {α : Type} {p : Parser α} [p.Uniform] {spell : α → List TokenKind}

omit [p.Uniform] in
theorem readsAll_flatMap_append {xs : List α} {after : List TokenKind}
    (each : ∀ before x rest, xs = before ++ x :: rest →
      p.reads (spell x ++ (rest.flatMap spell ++ after)) = some (x, rest.flatMap spell ++ after))
    (nonempty : ∀ x ∈ xs, spell x ≠ []) :
    p.readsAll (xs.flatMap spell ++ after) =
      (xs ++ (p.readsAll after).1, (p.readsAll after).2) := by
  induction xs with
  | nil => rfl
  | cons x xs ih =>
    have later := ih (fun before y rest split => each (x :: before) y rest (by rw [split]; rfl))
      fun y mem => nonempty y (List.mem_cons_of_mem x mem)
    rw [List.flatMap_cons, List.append_assoc,
      readsAll_of_some (each [] x xs rfl) (by
        have := List.length_pos_iff.2 (nonempty x List.mem_cons_self)
        simp only [List.length_append]
        omega), later]
    rfl

omit [p.Uniform] in
theorem readsAll_flatMap {xs : List α} {after : List TokenKind}
    (each : ∀ before x rest, xs = before ++ x :: rest →
      p.reads (spell x ++ (rest.flatMap spell ++ after)) = some (x, rest.flatMap spell ++ after))
    (nonempty : ∀ x ∈ xs, spell x ≠ []) (stops : p.reads after = none) :
    p.readsAll (xs.flatMap spell ++ after) = (xs, after) := by
  rw [readsAll_flatMap_append each nonempty, readsAll_of_none stops, List.append_nil]

omit [p.Uniform] in
theorem readsAll_flatMap_of_reads {after : List TokenKind} (xs : List α)
    (each : ∀ x ks, p.reads (spell x ++ ks) = some (x, ks)) (nonempty : ∀ x, spell x ≠ [])
    (stops : p.reads after = none) : p.readsAll (xs.flatMap spell ++ after) = (xs, after) :=
  readsAll_flatMap (fun _ x _ _ => each x _) (fun x _ => nonempty x) stops

theorem reads_furtherItems {conjunctions : List String} {w : String} (listed : w ∈ conjunctions)
    {xs : List α} (some_left : xs ≠ []) (after : List TokenKind)
    (each : ∀ before x rest, xs = before ++ x :: rest →
      p.reads (spell x ++ (further (.word w) (rest.map spell) ++ after)) =
        some (x, further (.word w) (rest.map spell) ++ after)) :
    (furtherItems conjunctions p).reads (further (.word w) (xs.map spell) ++ after) =
      some (xs, after) := by
  have middle : (mark ',' >>= fun _ => p).readsAll (further (.word w) (xs.map spell) ++ after) =
      (xs.dropLast, .word w :: (spell (xs.getLast some_left) ++ after)) := by
    induction xs with
    | nil => exact absurd rfl some_left
    | cons x xs ih =>
      cases xs with
      | nil => exact readsAll_of_none (by simp [further])
      | cons y xs =>
        have later := ih (List.cons_ne_nil y xs) fun before z rest split =>
          each (x :: before) z rest (by rw [split]; rfl)
        have spelled : further (.word w) ((x :: y :: xs).map spell) =
            .mark ',' :: (spell x ++ further (.word w) ((y :: xs).map spell)) :=
          Text.further_cons (List.cons_ne_nil _ _) _
        have first : (mark ',' >>= fun _ => p).reads
            (further (.word w) ((x :: y :: xs).map spell) ++ after) =
              some (x, further (.word w) ((y :: xs).map spell) ++ after) := by
          rw [spelled, List.cons_append, List.append_assoc]
          simpa using each [] x (y :: xs) rfl
        rw [readsAll_of_some first (by
          rw [spelled]
          simp only [List.length_append, List.length_cons]
          omega), later]
        rfl
  have last : p.reads (spell (xs.getLast some_left) ++ after) =
      some (xs.getLast some_left, after) := by
    have := each xs.dropLast (xs.getLast some_left) [] (List.dropLast_concat_getLast some_left).symm
    simpa [further] using this
  simp [furtherItems, middle, listed, last, List.dropLast_concat_getLast some_left]

theorem reads_enumeration {conjunctions : List String} {w : String} (listed : w ∈ conjunctions)
    {xs : List α} (some_left : xs ≠ []) {after : List TokenKind}
    (each : ∀ before x rest, xs = before ++ x :: rest →
      p.reads (spell x ++ (further (.word w) (rest.map spell) ++ after)) =
        some (x, further (.word w) (rest.map spell) ++ after))
    (stops : xs.length = 1 → (furtherItems conjunctions p).reads after = none) :
    (enumeration conjunctions p).reads (enumerated (.word w) (xs.map spell) ++ after) =
      some (xs, after) := by
  obtain _ | ⟨x, xs⟩ := xs
  · exact absurd rfl some_left
  · have first := each [] x xs rfl
    rw [List.map_cons, enumerated, List.append_assoc, enumeration, reads_bind, first]
    by_cases single : xs = []
    · subst single
      simp [further, stops rfl]
    · have others := reads_furtherItems listed single after
        fun before y rest split => each (x :: before) y rest (by rw [split]; rfl)
      simp [others]

end Lists
/-! ### Heads

Which tokens a production may begin with. It fails before any other. -/

def startsQuantity : TokenKind → Bool
  | .word w => ["a", "an", "x"].contains w
  | .number _ => true
  | _ => false

theorem quantity_none {ks : List TokenKind} (h : startsQuantity (headKind ks) = false) :
    quantity.reads ks = none := by
  rw [quantity, reads_token]
  cases head : headKind ks with
  | word w =>
    simp only [head, startsQuantity, List.contains_cons, List.contains_nil, Bool.or_false,
      Bool.or_eq_false_iff, beq_eq_false_iff_ne] at h
    simp [h]
  | number n => simp [head, startsQuantity] at h
  | _ => rfl

def startsTrait (k : TokenKind) : Bool :=
  startsQuantity k ||
    match k with
    | .word w =>
      (Color.ofWord? w).isSome || (KindWord.ofWord? w).isSome
        || ["non", "activated", "deactivated"].contains w
    | _ => false

theorem trait_none {ks : List TokenKind} (h : startsTrait (headKind ks) = false) :
    trait.reads ks = none := by
  have noWord {w : String} (e : headKind ks = .word w) :
      Color.ofWord? w = none ∧ KindWord.ofWord? w = none ∧
        w ∉ ["non", "activated", "deactivated"] := by
    rw [e] at h
    simpa [startsTrait, and_assoc] using (Bool.or_eq_false_iff.1 h).2
  have noColor : color.reads ks = none := wordAs_none fun w e => (noWord e).1
  have noKind : kindWord.reads ks = none := wordAs_none fun w e => (noWord e).2.1
  have notWord {w : String} (listed : w ∈ ["non", "activated", "deactivated"]) :
      (word w).reads ks = none :=
    word_none fun e => (noWord e).2.2 listed
  have noStats : quantity.reads ks = none := quantity_none (Bool.or_eq_false_iff.1 h).1
  simp [trait, non, stats, noColor, noKind, notWord, noStats]

def startsDescription (k : TokenKind) : Bool :=
  startsTrait k || [TokenKind.word "the", .word "target", .word "card", .word "cards",
    .word "without", .word "with", .word "that"].contains k

theorem selector_none {ks : List TokenKind} (the : headKind ks ≠ .word "the")
    (target : headKind ks ≠ .word "target") : selector.reads ks = none := by
  simp [selector, word_none the, word_none target]

section Inner

variable (inner : Parser CardMatch) [inner.Uniform]

theorem having_none {ks : List TokenKind} (h : headKind ks ≠ .word "with") :
    (having inner).reads ks = none := by
  simp [having, word_none h]

theorem targetingClause_none {ks : List TokenKind} (h : headKind ks ≠ .word "that") :
    (targetingClause inner).reads ks = none := by
  simp [targetingClause, word_none h]

theorem description_of_no_trait {ks : List TokenKind} (noTrait : trait.reads ks = none)
    (noWord : ∀ w ∈ ["the", "target", "card", "cards", "without", "with", "that"],
      headKind ks ≠ .word w) :
    (description inner).reads ks = some (⟨none, [], none, none, []⟩, ks) := by
  have traits : trait.readsAll ks = ([], ks) := readsAll_of_none noTrait
  have clauses : (targetingClause inner).readsAll ks = ([], ks) :=
    readsAll_of_none (targetingClause_none inner (noWord "that" (by simp)))
  have noun : (oneOf ["card", "cards"]).reads ks = none :=
    oneOf_none (by simp [noWord])
  have designator := selector_none (noWord "the" (by simp)) (noWord "target" (by simp))
  have with_none := having_none inner (noWord "with" (by simp))
  have without : lacking.reads ks = none := by simp [lacking, word_none, noWord "without"]
  simp [description, designator, with_none, without, traits, noun, clauses]

theorem description_nothing {ks : List TokenKind}
    (h : startsDescription (headKind ks) = false) :
    (description inner).reads ks = some (⟨none, [], none, none, []⟩, ks) := by
  obtain ⟨noTrait, others⟩ := Bool.or_eq_false_iff.1 h
  refine description_of_no_trait inner (trait_none noTrait) fun w listed e => ?_
  rw [e] at others
  simp only [List.mem_cons, List.not_mem_nil, or_false] at listed
  rcases listed with rfl | rfl | rfl | rfl | rfl | rfl | rfl <;> simp at others

theorem cardFilter_none {ks : List TokenKind} (h : startsDescription (headKind ks) = false) :
    (cardFilter inner).reads ks = none := by
  have article : (oneOf ["a", "an"]).reads ks = none := oneOf_none fun w listed e => by
    rw [e] at h
    revert h
    simp only [List.mem_cons, List.not_mem_nil, or_false] at listed
    rcases listed with rfl | rfl <;> decide
  simp [cardFilter, article, description_nothing inner h]

/-- An article is not enough for a filter. -/
theorem cardFilter_article_none {ks : List TokenKind}
    (h : startsDescription (headKind ks) = false) :
    (cardFilter inner).reads (.word "a" :: ks) = none := by
  simp [cardFilter, description_nothing inner h]

def startsMatch (k : TokenKind) : Bool :=
  startsDescription k || [TokenKind.word ownName, .word "this", .word "it"].contains k

theorem alternative_none {ks : List TokenKind} (h : startsMatch (headKind ks) = false) :
    (alternative inner).reads ks = none := by
  obtain ⟨noFilter, others⟩ := Bool.or_eq_false_iff.1 h
  simp only [List.contains_cons, List.contains_nil, Bool.or_false, Bool.or_eq_false_iff,
    beq_eq_false_iff_ne] at others
  have this_none : (oneOf ["this", "it"]).reads ks = none := oneOf_none (by simp [others])
  simp [alternative, word_none others.1, this_none, cardFilter_none inner noFilter]

end Inner

theorem cardMatch_none {room : Nat} {ks : List TokenKind} (h : startsMatch (headKind ks) = false) :
    (cardMatchWithin room).reads ks = none := by
  cases room with
  | zero => rfl
  | succ room => simp [cardMatchWithin, enumeration, alternative_none _ h]

theorem cardMatch_article_none {room : Nat} {ks : List TokenKind}
    (h : startsDescription (headKind ks) = false) :
    (cardMatchWithin room).reads (.word "a" :: ks) = none := by
  cases room with
  | zero => rfl
  | succ room =>
    have article := cardFilter_article_none (cardMatchWithin room) h
    simp [cardMatchWithin, enumeration, alternative, ownName, article]

theorem keyword_none {ks : List TokenKind} (h : ∀ k : Keyword, headKind ks ≠ .word k.word) :
    keyword.reads ks = none :=
  wordAs_none fun w e => List.find?_eq_none.2 fun k _ same =>
    h k (by rw [e, eq_of_beq same])

theorem direction_none {ks : List TokenKind} (h : ∀ d : Direction, headKind ks ≠ .word d.word) :
    direction.reads ks = none := by
  refine wordAs_none fun w e => ?_
  split
  · exact absurd e (h .greater)
  · exact absurd e (h .less)
  · rfl

theorem reads_direction (d : Direction) (ks : List TokenKind) :
    direction.reads (.word d.word :: ks) = some (d, ks) := by
  cases d <;> simp [direction, Direction.word]

theorem reads_stat (s : Stat) (ks : List TokenKind) :
    stat.reads (.word s.word :: ks) = some (s, ks) := by
  cases s <;> simp [stat, Stat.word]

/-! ### What printed forms begin with -/

theorem startsQuantity_kind (q : Quantity) : startsQuantity q.kind := by
  cases q <;> rfl

theorem startsTrait_color (c : Color) : startsTrait (.word c.word) := by
  rcases c with e | _
  · cases e <;> decide
  · decide

theorem startsTrait_kind (k : KindWord) : startsTrait (.word k.text) := by
  rcases k with ⟨k, plural⟩
  cases k <;> cases plural <;> decide

theorem startsTrait_spelled (t : Trait) (ks : List TokenKind) :
    startsTrait (headKind (t.spelled ++ ks)) := by
  cases t with
  | color c => exact startsTrait_color c
  | kind k => exact startsTrait_kind k
  | stats s => simp [Trait.spelled, Stats.spelled, startsTrait, startsQuantity_kind]
  | _ => rfl

theorem startsDescription_spelled (f : CardFilter) (ks : List TokenKind) :
    startsDescription (headKind (f.spelled ++ ks)) := by
  obtain ⟨selector, traits, without, having, targeting⟩ := f
  unfold CardFilter.spelled
  cases selector with
  | some s => cases s <;> rfl
  | none =>
    cases traits with
    | nil => rfl
    | cons t traits =>
      simp [startsDescription, List.append_assoc, startsTrait_spelled]

theorem startsMatch_alternative (a : Alternative) (ks : List TokenKind) :
    startsMatch (headKind (a.spelled ++ ks)) := by
  cases a with
  | named => rfl
  | this => rfl
  | filter f => simp [startsMatch, Alternative.spelled, startsDescription_spelled]

theorem startsMatch_spelled {m : CardMatch} (nonempty : m ≠ []) (ks : List TokenKind) :
    startsMatch (headKind (m.spelled ++ ks)) := by
  cases m with
  | nil => exact absurd rfl nonempty
  | cons a rest =>
    rw [CardMatch.spelled, List.map_cons, enumerated, List.append_assoc]
    exact startsMatch_alternative a _

theorem ne_of_starts {starts : TokenKind → Bool} {k other : TokenKind} (h : starts k)
    (no : starts other = false) : k ≠ other := by
  rintro rfl
  exact nomatch h.symm.trans no

theorem starts_of_contains {starts : TokenKind → Bool} {tokens : List TokenKind} {k : TokenKind}
    {value : Bool} (h : tokens.contains k) (all : ∀ other ∈ tokens, starts other = value) :
    starts k = value :=
  all k (List.contains_iff_mem.1 h)

theorem contains_of_starts {starts : TokenKind → Bool} {tokens : List TokenKind} {k : TokenKind}
    (h : starts k) (no : ∀ other ∈ tokens, starts other = false) : tokens.contains k = false :=
  Bool.eq_false_iff.2 fun listed => ne_of_starts h (no k (List.contains_iff_mem.1 listed)) rfl

end CardGame.Grammar
