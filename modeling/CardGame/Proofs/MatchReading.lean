import CardGame.Proofs.Beginnings
import CardGame.Proofs.Clarity

/-!
Reading printed matches. A clear match is read back from its tokens where nothing follows that could
be read into its end.
-/

namespace CardGame.Grammar

open CardGame.Grammar.Parser
open Text (TokenKind enumerated further)

def halts (k : TokenKind) : Bool :=
  !startsDescription k
    && !([TokenKind.word "and", .word "or", .mark ',', .mark '/'].contains k)

/-- Tokens before which a match ends that has the given opening. -/
structure Closes (room : Nat) (o : Opening) (after : List TokenKind) : Prop where
  noun : o.noun → startsTrait (headKind after) = false ∧
    headKind after ≠ .word "card" ∧ headKind after ≠ .word "cards"
  targeting : o.targeting → headKind after ≠ .word "that"
  trail : o.trail → trailing.reads after = none
  description : o.description → startsDescription (headKind after) = false
  alternatives : ∀ depth ∈ o.alternatives,
    (furtherItems ["and", "or"] (alternative (cardMatchWithin (room - depth)))).reads after = none
  qualifier : ∀ w ∈ ["without", "with", "and"], headKind after ≠ .word w
  stroke : headKind after ≠ .mark '/'
  keyword : (mark ',' >>= fun _ => keyword).reads after = none

theorem furtherItems_none {α : Type} {conjunctions : List String} {item : Parser α} [item.Uniform]
    {ks : List TokenKind} (comma : (mark ',' >>= fun _ => item).reads ks = none)
    (conjunction : ∀ w ∈ conjunctions, headKind ks ≠ .word w) :
    (furtherItems conjunctions item).reads ks = none := by
  have middle : (mark ',' >>= fun _ => item).readsAll ks = ([], ks) := readsAll_of_none comma
  simp [furtherItems, middle, oneOf_none conjunction]

theorem Closes.of_halts (room : Nat) (o : Opening) {ks : List TokenKind} (h : halts (headKind ks)) :
    Closes room o ks := by
  simp only [halts, List.contains_cons, List.contains_nil, Bool.or_false, Bool.and_eq_true,
    Bool.not_eq_true', Bool.or_eq_false_iff, beq_eq_false_iff_ne] at h
  obtain ⟨noFilter, noAnd, noOr, noComma, noStroke⟩ := h
  have filterWord (w : String) (starts : startsDescription (.word w) = true) :
      headKind ks ≠ .word w := by
    rintro e
    rw [e, starts] at noFilter
    exact nomatch noFilter
  have comma {α : Type} (p : Parser α) [p.Uniform] : (mark ',' >>= fun _ => p).reads ks = none := by
    simp [mark_none noComma]
  exact
    { noun := fun _ => ⟨(Bool.or_eq_false_iff.1 noFilter).1, filterWord _ (by decide),
        filterWord _ (by decide)⟩
      targeting := fun _ => filterWord _ (by decide)
      trail := fun _ => by simp [trailing, word_none noOr]
      description := fun _ => noFilter
      alternatives := fun depth _ => furtherItems_none (comma _) (by simp [noAnd, noOr])
      qualifier := by simp [noAnd, filterWord "without" (by decide), filterWord "with" (by decide)]
      stroke := noStroke
      keyword := comma _ }

theorem Closes.of_comma (room : Nat) (o : Opening) {ks : List TokenKind}
    (noKeyword : ∀ k : Keyword, headKind ks ≠ .word k.word)
    (noFurther : ∀ depth ∈ o.alternatives,
      (furtherItems ["and", "or"] (alternative (cardMatchWithin (room - depth)))).reads
        (.mark ',' :: ks) = none) :
    Closes room o (.mark ',' :: ks) where
  noun _ := by simp; decide
  targeting _ := by simp
  trail _ := by simp [trailing]
  description _ := by rw [headKind_cons]; decide
  alternatives := noFurther
  qualifier := by simp
  stroke := by simp
  keyword := by
    simp [keyword_none noKeyword]

theorem Closes.of_or (room : Nat) (o : Opening) {ks : List TokenKind}
    (noTrail : o.trail → direction.reads ks = none)
    (noFurther : ∀ depth ∈ o.alternatives,
      (alternative (cardMatchWithin (room - depth))).reads ks = none) :
    Closes room o (.word "or" :: ks) where
  noun _ := by simp; decide
  targeting _ := by simp
  trail t := by simp [trailing, noTrail t]
  description _ := by rw [headKind_cons]; decide
  alternatives depth mem := by
    have middle : (mark ',' >>= fun _ => alternative (cardMatchWithin (room - depth))).readsAll
        (.word "or" :: ks) = ([], .word "or" :: ks) := readsAll_of_none (by simp)
    simp [furtherItems, middle, noFurther depth mem]
  qualifier := by simp
  stroke := by simp
  keyword := by simp

theorem Closes.of_that (room : Nat) {o : Opening} (h : o.takesTargeting = false)
    (ks : List TokenKind) : Closes room o (.word "that" :: ks) := by
  simp only [Opening.takesTargeting, Bool.or_eq_false_iff] at h
  exact
    { noun := fun _ => by simp; decide
      targeting := fun t => absurd (h.1.symm.trans t) nofun
      trail := fun _ => by simp [trailing]
      description := fun t => absurd (h.2.symm.trans t) nofun
      alternatives := fun depth _ => furtherItems_none (by simp) (by simp)
      qualifier := by simp
      stroke := by simp
      keyword := by simp }

theorem spelled_ne_nil (a : Alternative) : a.spelled ≠ [] := by
  intro e
  have := startsMatch_alternative a []
  rw [e] at this
  exact nomatch this

theorem Closes.of_further (room : Nat) {o : Opening} (h : o.alternatives = [])
    {rest : List Alternative} (some_left : rest ≠ []) (ks : List TokenKind) :
    Closes room o (further (.word "or") (rest.map Alternative.spelled) ++ ks) := by
  obtain ⟨a, rest, rfl⟩ := List.exists_cons_of_ne_nil some_left
  have head (ks : List TokenKind) := startsMatch_alternative a ks
  by_cases single : rest = []
  · subst single
    simp only [List.map_cons, List.map_nil, further, List.cons_append]
    refine .of_or room o (fun _ => direction_none fun d => ?_) (by simp [h])
    exact ne_of_starts (head _) (by cases d <;> decide)
  · rw [List.map_cons, Text.further_cons (by simpa using single), List.cons_append,
      List.append_assoc]
    exact .of_comma room o (fun k => ne_of_starts (head _) (by cases k <;> decide)) (by simp [h])

/-! ### Filters -/

theorem reads_selector (s : Selector) (ks : List TokenKind) :
    selector.reads (s.spelled ++ ks) = some (s, ks) := by
  cases s <;> simp [selector, Selector.spelled]

theorem article_none (t : Trait) (h : t.startsWithArticle = false) (ks : List TokenKind) :
    (oneOf ["a", "an"]).reads (t.spelled ++ ks) = none := by
  refine oneOf_none ?_
  cases t with
  | color c =>
    rcases c with e | _
    · cases e <;> simp [Trait.spelled, Color.word, Essence.word]
    · simp [Trait.spelled, Color.word]
  | kind k =>
    rcases k with ⟨k, plural⟩
    cases k <;> cases plural <;> simp [Trait.spelled, KindWord.text, CardKind.word]
  | stats s =>
    have power : s.power ≠ .one := by simpa [Trait.startsWithArticle] using h
    cases q : s.power <;> simp_all [Trait.spelled, Stats.spelled, Quantity.kind]
  | _ => simp [Trait.spelled]

section Inner

variable {room : Nat}
  (ih : ∀ m after, m.Printable room → m.isClear → Closes (room - 1) m.opening after →
    (cardMatchWithin room).reads (m.spelled ++ after) = some (m, after))

theorem filter_article_none {f : CardFilter}
    (h : f.selector.isSome ∨ f.traits.head?.any Trait.startsWithArticle = false)
    (ks : List TokenKind) : (oneOf ["a", "an"]).reads (f.spelled ++ ks) = none := by
  obtain ⟨selector, traits, without, having, targeting⟩ := f
  unfold CardFilter.spelled
  cases selector with
  | some s => cases s <;> simp [Selector.spelled]
  | none =>
    cases traits with
    | nil => simp
    | cons t traits =>
      rw [Option.toList_none, List.flatMap_nil, List.nil_append, List.flatMap_cons,
        List.append_assoc, List.append_assoc]
      exact article_none t (by simpa using h) _

theorem trait_quantity_none {q : Quantity} {ks : List TokenKind}
    (stroke : headKind ks ≠ .mark '/') : trait.reads (q.kind :: ks) = none := by
  have noColor : color.reads (q.kind :: ks) = none :=
    wordAs_none fun w e => by cases q <;> cases e <;> decide
  have noKind : kindWord.reads (q.kind :: ks) = none :=
    wordAs_none fun w e => by cases q <;> cases e <;> decide
  have noWord (w : String) (h : w ∉ ["a", "x"]) : q.kind ≠ .word w := by
    rintro e
    cases q <;> simp_all [Quantity.kind]
  simp [trait, non, noColor, noKind, noWord, stats, reads_quantity, mark_none stroke]

theorem cardMatch_quantity_none {room : Nat} {q : Quantity} {ks : List TokenKind}
    (one : q = .one → startsDescription (headKind ks) = false) (stroke : headKind ks ≠ .mark '/') :
    (cardMatchWithin room).reads (q.kind :: ks) = none := by
  by_cases isOne : q = .one
  · subst isOne
    exact cardMatch_article_none (one rfl)
  · cases room with
    | zero => rfl
    | succ room =>
      have noWord (w : String) (h : w ≠ "x") : q.kind ≠ .word w := by
        rintro e
        cases q <;> simp_all [Quantity.kind]
      have nothing : (description (cardMatchWithin room)).reads (q.kind :: ks) =
          some (⟨none, [], none, none, []⟩, q.kind :: ks) :=
        description_of_no_trait _ (trait_quantity_none stroke) fun w listed => noWord w (by
          rintro rfl; simp at listed)
      have article : (oneOf ["a", "an"]).reads (q.kind :: ks) = none :=
        oneOf_none fun w listed => noWord w (by rintro rfl; simp at listed)
      have pronoun : (oneOf ["this", "it"]).reads (q.kind :: ks) = none :=
        oneOf_none fun w listed => noWord w (by rintro rfl; simp at listed)
      simp [cardMatchWithin, enumeration, alternative, cardFilter, noWord ownName (by decide),
        article, pronoun, nothing]

theorem startsMatch_count {c : Count} (owned : ∀ m s, c = .attribute m s → m ≠ [])
    (ks : List TokenKind) : startsMatch (headKind (c.spelled ++ ks)) := by
  cases c with
  | numberOf m => rfl
  | «attribute» owner s =>
    rw [Count.spelled, alternativesSpelled_eq_map, List.append_assoc]
    exact startsMatch_spelled (owned owner s rfl) _
  | value q =>
    simp [Count.spelled, startsMatch, startsDescription, startsTrait, startsQuantity_kind]

theorem reads_optional_leading (lead : Option Direction) {c : Count}
    (owned : ∀ m s, c = .attribute m s → m ≠ []) (ks : List TokenKind) :
    (optional leading).reads (Direction.leadSpelled lead ++ (c.spelled ++ ks)) =
      some (lead, c.spelled ++ ks) := by
  cases lead with
  | none =>
    have noDirection : direction.reads (c.spelled ++ ks) = none := direction_none fun d =>
      ne_of_starts (startsMatch_count owned ks) (by cases d <;> decide)
    simp [Direction.leadSpelled, leading, noDirection]
  | some d => simp [Direction.leadSpelled, leading, reads_direction]

theorem reads_optional_trailing (trail : Option Direction) (after : List TokenKind)
    (stops : trail = none → trailing.reads after = none) :
    (optional trailing).reads (Direction.trailSpelled trail ++ after) = some (trail, after) := by
  cases trail with
  | none => simp [Direction.trailSpelled, stops rfl]
  | some d => simp [Direction.trailSpelled, trailing, reads_direction]

theorem words_number_none {m : CardMatch} (nonempty : m ≠ []) (ks : List TokenKind) :
    (words ["the", "number", "of"]).reads (m.spelled ++ ks) = none := by
  obtain ⟨a, rest, rfl⟩ := List.exists_cons_of_ne_nil nonempty
  rw [CardMatch.spelled, List.map_cons, enumerated, List.append_assoc]
  generalize further _ _ ++ ks = ks
  cases a with
  | named => simp [Alternative.spelled, ownName]
  | this => simp [Alternative.spelled]
  | filter f =>
    obtain ⟨selector, traits, without, having, targeting⟩ := f
    unfold Alternative.spelled CardFilter.spelled
    cases selector with
    | some s => cases s <;> simp [Selector.spelled]
    | none =>
      cases traits with
      | nil => simp
      | cons t traits =>
        rw [Option.toList_none, List.flatMap_nil, List.nil_append, List.flatMap_cons,
          List.append_assoc, List.append_assoc, reads_words_cons, word_none]
        · rfl
        · exact ne_of_starts (startsTrait_spelled t _) (by decide)

include ih

theorem reads_count {c : Count} (after : List TokenKind)
    (printable : c.Printable (CardMatch.Printable room)) (clear : c.isClear)
    (closes : Closes (room - 1) c.opening after) :
    (count (cardMatchWithin room)).reads (c.spelled ++ after) = some (c, after) := by
  cases c with
  | numberOf m =>
    have inner := ih m after printable clear closes
    rw [CardMatch.spelled] at inner
    simp [count, Count.spelled, alternativesSpelled_eq_map, inner]
  | «attribute» owner s =>
    have inner := ih owner (.mark '\'' :: .word "s" :: .word s.word :: after) printable clear
      (.of_halts _ _ rfl)
    have number := words_number_none (m := owner) printable.nonempty
      (.mark '\'' :: .word "s" :: .word s.word :: after)
    rw [CardMatch.spelled] at inner number
    simp [count, Count.spelled, alternativesSpelled_eq_map, inner, number, possessive, reads_stat]
  | value q =>
    have none_owner : (cardMatchWithin room).reads (q.kind :: after) = none :=
      cardMatch_quantity_none (fun one => closes.description (by rw [one]; rfl)) closes.stroke
    have number : q.kind ≠ .word "the" := by cases q <;> simp [Quantity.kind]
    simp [count, Count.spelled, none_owner, number, reads_quantity]

theorem reads_comparison {c : Comparison} {after : List TokenKind}
    (printable : c.count.Printable (CardMatch.Printable room))
    (clear : c.isClear)
    (closes : Closes (room - 1) c.opening after) :
    (comparison (cardMatchWithin room)).reads (c.spelled ++ after) = some (c, after) := by
  obtain ⟨countClear, trailClear⟩ := c.isClear_iff.1 clear
  obtain ⟨lead, count, trail'⟩ := c
  have owned (m : CardMatch) (s : Stat) (same : count = .attribute m s) : m ≠ [] := by
    subst same
    exact printable.nonempty
  have reads_lead := reads_optional_leading lead owned (Direction.trailSpelled trail' ++ after)
  have reads_trail := reads_optional_trailing trail' after fun same =>
    closes.trail (by subst same; rfl)
  have reads_inner := reads_count ih (Direction.trailSpelled trail' ++ after) printable
    countClear (by
      cases trail' with
      | none => exact { closes with trail := fun _ => closes.trail rfl }
      | some d =>
        refine .of_or _ _ (fun opened => ?_) fun depth _ => ?_
        · exact nomatch (trailClear rfl).symm.trans opened
        · exact alternative_none _ (by cases d <;> rfl))
  rw [comparison, Comparison.spelled, List.append_assoc, List.append_assoc]
  simp [-reads_optional, reads_lead, reads_inner, reads_trail]

theorem reads_having {h : Having} (after : List TokenKind)
    (printable : h.Printable (CardMatch.Printable room))
    (clear : h.isClear)
    (closes : Closes (room - 1) h.opening after) :
    (having (cardMatchWithin room)).reads (.word "with" :: (h.spelled ++ after)) =
      some (h, after) := by
  cases h with
  | keywords ks =>
    have list : (enumeration ["and"] keyword).reads (keywordsSpelled ks ++ after) =
        some (ks, after) :=
      reads_enumeration (by simp) printable (fun _ k rest _ => reads_keyword k _) fun _ =>
        furtherItems_none closes.keyword (by simpa using closes.qualifier "and" (by simp))
    simp [having, Having.spelled, list]
  | comparison s c =>
    have noKeyword : keyword.reads (.word s.word :: (c.spelled ++ after)) = none :=
      keyword_none fun k => by cases k <;> cases s <;> simp [Keyword.word, Stat.word]
    have compared := reads_comparison ih printable clear closes
    simp [having, Having.spelled, enumeration, noKeyword, reads_stat, compared]

theorem reads_targeting {f : CardFilter} {after : List TokenKind}
    (printable : f.Printable (CardMatch.Printable room))
    (clear : f.isClear)
    (closes : Closes (room - 1) f.opening after) :
    (targetingClause (cardMatchWithin room)).readsAll (targetingSpelled f.targeting ++ after) =
      (f.targeting, after) := by
  rw [targetingSpelled_eq_flatMap]
  refine readsAll_flatMap (fun before m rest split => ?_) (fun m _ => by
    simp [CardMatch.targetSpelled]) (targetingClause_none _ (closes.targeting f.opening_targeting))
  obtain ⟨-, -, all⟩ := f.isClear_iff.1 clear
  rw [split] at all
  obtain ⟨mClear, endsBefore⟩ := targetingIsClear_append all
  have inner := ih m (rest.flatMap CardMatch.targetSpelled ++ after)
    (printable.targeting m (by rw [split]; simp)) mClear (by
      cases rest with
      | nil =>
        have opening_eq : f.opening = { m.opening with targeting := true } := by
          obtain ⟨selector, traits, without, having, targeting⟩ := f
          simp only at split
          rw [CardFilter.opening, split, targetingOpening_concat]
        rw [opening_eq] at closes
        exact { closes with targeting := fun _ => closes.targeting rfl }
      | cons next rest => exact .of_that _ (endsBefore (List.cons_ne_nil _ _)) _)
  simp [targetingClause, CardMatch.targetSpelled, inner]

theorem reads_optional_having {f : CardFilter} {after : List TokenKind}
    (printable : f.Printable (CardMatch.Printable room))
    (clear : f.isClear)
    (closes : Closes (room - 1) f.opening after) :
    (optional (having (cardMatchWithin room))).reads
        (havingSpelled f.having ++ (targetingSpelled f.targeting ++ after)) =
      some (f.having, targetingSpelled f.targeting ++ after) := by
  obtain ⟨selector, traits, without, having, targeting⟩ := f
  cases having with
  | none =>
    have other : headKind (targetingSpelled targeting ++ after) ≠ .word "with" := by
      cases targeting with
      | nil => exact closes.qualifier "with" (by simp)
      | cons m rest => simp [targetingSpelled]
    simp [havingSpelled, having_none _ other]
  | some h =>
    obtain ⟨-, all, -⟩ := (CardFilter.isClear_iff _).1 clear
    obtain ⟨hClear, endsBefore⟩ := havingIsClear_some all
    have inner := reads_having ih (targetingSpelled targeting ++ after)
      (printable.having h rfl) hClear (by
        cases targeting with
        | nil => exact { closes with targeting := fun _ => closes.targeting rfl }
        | cons m rest => exact .of_that _ (endsBefore rfl) _)
    simp [havingSpelled, inner]

omit ih in
theorem headKind_having_of {P : TokenKind → Prop} {f : CardFilter} {after : List TokenKind}
    (own : ∀ w ∈ ["with", "that"], P (.word w))
    (ends : f.having = none → f.targeting = [] → P (headKind after)) :
    P (headKind (havingSpelled f.having ++ (targetingSpelled f.targeting ++ after))) := by
  obtain ⟨selector, traits, without, having, targeting⟩ := f
  cases having with
  | some h => exact own "with" (by simp)
  | none =>
    cases targeting with
    | cons m rest => exact own "that" (by simp)
    | nil => exact ends rfl rfl

omit ih in
theorem headKind_qualifiers_of {P : TokenKind → Prop} {f : CardFilter} {after : List TokenKind}
    (own : ∀ w ∈ ["without", "with", "that"], P (.word w))
    (ends : f.without = none → f.having = none → f.targeting = [] → P (headKind after)) :
    P (headKind (lackingSpelled f.without ++
      (havingSpelled f.having ++ (targetingSpelled f.targeting ++ after)))) := by
  cases lacks : f.without with
  | some k => exact own "without" (by simp)
  | none =>
    exact headKind_having_of (fun w listed => own w (List.mem_cons_of_mem _ listed)) (ends lacks)

omit ih in
theorem headKind_qualifiers {f : CardFilter} {after : List TokenKind}
    (closes : Closes (room - 1) f.opening after) (kind : f.traits.any Trait.isKind) :
    let rest := lackingSpelled f.without ++
      (havingSpelled f.having ++ (targetingSpelled f.targeting ++ after))
    startsTrait (headKind rest) = false ∧ headKind rest ≠ .word "card" ∧
      headKind rest ≠ .word "cards" := by
  refine headKind_qualifiers_of (P := fun k =>
    startsTrait k = false ∧ k ≠ .word "card" ∧ k ≠ .word "cards") (by decide) ?_
  obtain ⟨selector, traits, without, having, targeting⟩ := f
  rintro rfl rfl rfl
  exact closes.noun (by simpa [CardFilter.opening, targetingOpening, havingOpening] using kind)

omit ih in
theorem headKind_having {f : CardFilter} {after : List TokenKind}
    (closes : Closes (room - 1) f.opening after) :
    headKind (havingSpelled f.having ++ (targetingSpelled f.targeting ++ after)) ≠
      .word "without" :=
  headKind_having_of (P := (· ≠ .word "without")) (by decide) fun _ _ =>
    closes.qualifier "without" (by simp)

omit ih in
theorem reads_optional_lacking (without : Option Keyword) {ks : List TokenKind}
    (stops : without = none → headKind ks ≠ .word "without") :
    (optional lacking).reads (lackingSpelled without ++ ks) = some (without, ks) := by
  cases without with
  | none => simp [lackingSpelled, lacking, word_none (stops rfl)]
  | some k => simp [lackingSpelled, lacking, reads_keyword]

omit ih in
theorem reads_optional_noun {traits : List Trait} {ks : List TokenKind}
    (noNoun : traits.any Trait.isKind → headKind ks ≠ .word "card" ∧ headKind ks ≠ .word "cards") :
    ∃ u, (optional (oneOf ["card", "cards"])).reads (nounSpelled traits ++ ks) = some (u, ks) := by
  by_cases kind : traits.any Trait.isKind
  · have noun : (oneOf ["card", "cards"]).reads ks = none := oneOf_none (by simpa using noNoun kind)
    exact ⟨none, by simp [nounSpelled, kind, noun]⟩
  · exact ⟨some (), by simp [nounSpelled, kind]⟩

omit ih in
theorem reads_traits {traits : List Trait} {ks : List TokenKind}
    (noTrait : traits.any Trait.isKind → startsTrait (headKind ks) = false) :
    trait.readsAll (traits.flatMap Trait.spelled ++ (nounSpelled traits ++ ks)) =
      (traits, nounSpelled traits ++ ks) := by
  refine readsAll_flatMap_of_reads traits reads_trait (fun t e => ?_) (trait_none ?_)
  · have starts := startsTrait_spelled t []
    rw [e] at starts
    exact nomatch starts
  · by_cases kind : traits.any Trait.isKind
    · simpa [nounSpelled, kind] using noTrait kind
    · simp only [nounSpelled, kind]
      rfl

omit ih in
theorem reads_optional_selector (chosen : Option Selector) (traits : List Trait)
    (ks : List TokenKind) :
    (optional selector).reads (chosen.toList.flatMap Selector.spelled ++
        (traits.flatMap Trait.spelled ++ (nounSpelled traits ++ ks))) =
      some (chosen, traits.flatMap Trait.spelled ++ (nounSpelled traits ++ ks)) := by
  cases chosen with
  | some s => simp [reads_selector]
  | none =>
    have other : selector.reads (traits.flatMap Trait.spelled ++ (nounSpelled traits ++ ks)) =
        none := by
      cases traits with
      | nil => exact selector_none (by simp) (by simp)
      | cons t traits =>
        rw [List.flatMap_cons, List.append_assoc]
        have starts := startsTrait_spelled t (traits.flatMap Trait.spelled ++
          (nounSpelled (t :: traits) ++ ks))
        exact selector_none (ne_of_starts starts (by decide))
          (ne_of_starts starts (by decide))
    simp [other]

omit ih in
theorem reads_description_parts {inner : Parser CardMatch} [inner.Uniform] {f : CardFilter}
    {after : List TokenKind}
    (heads : f.traits.any Trait.isKind →
      let rest := lackingSpelled f.without ++
        (havingSpelled f.having ++ (targetingSpelled f.targeting ++ after))
      startsTrait (headKind rest) = false ∧ headKind rest ≠ .word "card" ∧
        headKind rest ≠ .word "cards")
    (lacks : headKind (havingSpelled f.having ++ (targetingSpelled f.targeting ++ after)) ≠
      .word "without")
    (qualified : (optional (having inner)).reads
        (havingSpelled f.having ++ (targetingSpelled f.targeting ++ after)) =
      some (f.having, targetingSpelled f.targeting ++ after))
    (clauses : (targetingClause inner).readsAll (targetingSpelled f.targeting ++ after) =
      (f.targeting, after)) :
    (description inner).reads (f.spelled ++ after) = some (f, after) := by
  have without := reads_optional_lacking f.without fun _ => lacks
  obtain ⟨u, noun⟩ := reads_optional_noun fun kind => (heads kind).2
  have own := reads_traits fun kind => (heads kind).1
  have chosen := reads_optional_selector f.selector f.traits (lackingSpelled f.without ++
    (havingSpelled f.having ++ (targetingSpelled f.targeting ++ after)))
  obtain ⟨selector, traits, lacked, has, targeting⟩ := f
  simp only at clauses qualified without noun own chosen
  rw [description, CardFilter.spelled]
  simp only [List.append_assoc]
  simp [-reads_optional, chosen, own, without, qualified, clauses, noun]

theorem reads_description {f : CardFilter} {after : List TokenKind}
    (printable : f.Printable (CardMatch.Printable room))
    (clear : f.isClear)
    (closes : Closes (room - 1) f.opening after) :
    (description (cardMatchWithin room)).reads (f.spelled ++ after) = some (f, after) :=
  reads_description_parts (headKind_qualifiers closes) (headKind_having closes)
    (reads_optional_having ih printable clear closes) (reads_targeting ih printable clear closes)

omit ih in
theorem reads_alternative_filter {inner : Parser CardMatch} [inner.Uniform] {f : CardFilter}
    {after : List TokenKind}
    (noArticle : f.selector.isSome ∨ f.traits.head?.any Trait.startsWithArticle = false)
    (whole : (description inner).reads (f.spelled ++ after) = some (f, after)) :
    (alternative inner).reads (f.spelled ++ after) = some (.filter f, after) := by
  have head := startsDescription_spelled f after
  have noName : headKind (f.spelled ++ after) ≠ .word ownName := ne_of_starts head (by decide)
  have noPronoun : (oneOf ["this", "it"]).reads (f.spelled ++ after) = none := by
    refine oneOf_none fun w listed => ne_of_starts head ?_
    simp only [List.mem_cons, List.not_mem_nil, or_false] at listed
    rcases listed with rfl | rfl <;> decide
  have article := filter_article_none noArticle after
  have nonempty : f.spelled ≠ [] := spelled_ne_nil (.filter f)
  simp [alternative, cardFilter, word_none noName, noPronoun, article, whole, nonempty]

theorem reads_alternative {a : Alternative} {after : List TokenKind}
    (printable : a.Printable (CardMatch.Printable room))
    (clear : a.isClear)
    (closes : Closes (room - 1) a.opening after) :
    (alternative (cardMatchWithin room)).reads (a.spelled ++ after) = some (a, after) := by
  cases a with
  | named => simp [alternative, Alternative.spelled]
  | this => simp [alternative, Alternative.spelled, ownName]
  | filter f =>
    exact reads_alternative_filter (f.isClear_iff.1 clear).1
      (reads_description ih printable clear closes)

end Inner

theorem Closes.last {room : Nat} {before : CardMatch} {a : Alternative} {after : List TokenKind}
    (h : Closes room (CardMatch.opening (before ++ [a])) after) :
    Closes (room - 1) a.opening after := by
  rw [CardMatch.opening, alternativesOpening_concat] at h
  exact
    { h with
      alternatives := fun depth mem => by
        have inner := h.alternatives (depth + 1)
          (List.mem_append_right _ (List.mem_map_of_mem mem))
        rwa [show room - (depth + 1) = room - 1 - depth by omega] at inner }

/-- Within the room there is, a clear match is read back from its tokens. -/
theorem reads_cardMatchWithin (room : Nat) (m : CardMatch) (after : List TokenKind)
    (printable : m.Printable room) (clear : m.isClear)
    (closes : Closes (room - 1) m.opening after) :
    (cardMatchWithin room).reads (m.spelled ++ after) = some (m, after) := by
  induction room generalizing m after with
  | zero => exact nomatch printable
  | succ room ih =>
    refine reads_enumeration (by simp) printable.1 (fun before a rest split => ?_) fun single => ?_
    · have mem : a ∈ m := by rw [split]; simp
      subst split
      obtain ⟨aClear, endsBefore⟩ := alternativesAreClear_append clear
      refine reads_alternative ih (printable.2 a mem) aClear ?_
      by_cases isLast : rest = []
      · subst isLast
        exact closes.last
      · exact .of_further _ (endsBefore isLast) isLast after
    · exact closes.alternatives 0 (by simp [CardMatch.opening, Opening.ofMatch, single])

end CardGame.Grammar
