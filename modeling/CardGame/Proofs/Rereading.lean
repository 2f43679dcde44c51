import CardGame.Proofs.Derivation
import CardGame.Proofs.Nesting

/-!
Reading a match once more. The printed form of a match that was read leaves out articles, says
"card" where no kind is named and "or" for every conjunction. Each part of it is still followed by
what the same part was followed by before, so that it is read again up to the same place.
-/

namespace CardGame

mutual

def Alternative.filters : Alternative → List CardFilter
  | .filter f => CardFilter.filters f
  | _ => []

def CardFilter.filters : CardFilter → List CardFilter
  | ⟨selector, traits, without, having, targeting⟩ =>
    ⟨selector, traits, without, having, targeting⟩
      :: (havingFilters having ++ targetingFilters targeting)

def havingFilters : Option Having → List CardFilter
  | some h => Having.filters h
  | none => []

def Having.filters : Having → List CardFilter
  | .keywords _ => []
  | .comparison _ c => Comparison.filters c

def Comparison.filters : Comparison → List CardFilter
  | ⟨_, count, _⟩ => Count.filters count

def Count.filters : Count → List CardFilter
  | .numberOf m => alternativesFilters m
  | .attribute owner _ => alternativesFilters owner
  | .value _ => []

def alternativesFilters : List Alternative → List CardFilter
  | [] => []
  | a :: rest => Alternative.filters a ++ alternativesFilters rest

def targetingFilters : List (List Alternative) → List CardFilter
  | [] => []
  | m :: rest => alternativesFilters m ++ targetingFilters rest

end

def CardMatch.filters (m : CardMatch) : List CardFilter :=
  alternativesFilters m

/-- Whether the printed form of a filter begins with a number that is an article as well. -/
def CardFilter.startsWithArticle (f : CardFilter) : Bool :=
  f.selector.isNone && f.traits.head?.any Trait.startsWithArticle

theorem CardFilter.not_startsWithArticle_iff (f : CardFilter) : f.startsWithArticle = false ↔
    f.selector.isSome ∨ f.traits.head?.any Trait.startsWithArticle = false := by
  unfold startsWithArticle
  cases f.selector <;> simp

/-- Filters none of which begins with its article when it is printed without one. -/
def ArticleFree (fs : List CardFilter) : Prop :=
  ∀ f ∈ fs, f.startsWithArticle = false

instance (fs : List CardFilter) : Decidable (ArticleFree fs) :=
  inferInstanceAs (Decidable (∀ f ∈ fs, f.startsWithArticle = false))

theorem ArticleFree.append_iff {fs gs : List CardFilter} :
    ArticleFree (fs ++ gs) ↔ ArticleFree fs ∧ ArticleFree gs :=
  List.forall_mem_append

theorem ArticleFree.targeting_iff {ms : List CardMatch} :
    ArticleFree (targetingFilters ms) ↔ ∀ m ∈ ms, ArticleFree (CardMatch.filters m) := by
  induction ms with
  | nil => simp [targetingFilters, ArticleFree]
  | cons m rest ih => rw [targetingFilters, append_iff, ih, List.forall_mem_cons, CardMatch.filters]

theorem ArticleFree.filter_iff {f : CardFilter} :
    ArticleFree f.filters ↔ f.startsWithArticle = false ∧ ArticleFree (havingFilters f.having) ∧
      ArticleFree (targetingFilters f.targeting) := by
  obtain ⟨selector, traits, without, having, targeting⟩ := f
  rw [CardFilter.filters, ArticleFree, List.forall_mem_cons]
  exact and_congr_right fun _ => append_iff

end CardGame

namespace CardGame.Grammar

open CardGame.Grammar.Parser
open Text (TokenKind enumerated further)

/-! ### Further items -/

section FurtherItems

variable {α : Type} {conjunctions : List String} {item : Parser α} [item.Uniform]

theorem reads_furtherItems_last {w : String} (listed : w ∈ conjunctions) (ks : List TokenKind) :
    (furtherItems conjunctions item).reads (.word w :: ks) =
      (item.reads ks).map fun x => ([x.1], x.2) := by
  have middle : (mark ',' >>= fun _ => item).readsAll (.word w :: ks) = ([], .word w :: ks) :=
    readsAll_of_none (by simp)
  rw [furtherItems, reads_bind, reads_many, middle]
  cases last : item.reads ks <;> simp [listed, last]

theorem reads_furtherItems_comma {a : α} {ks rest : List TokenKind}
    (first : item.reads ks = some (a, rest)) :
    (furtherItems conjunctions item).reads (.mark ',' :: ks) =
      ((furtherItems conjunctions item).reads rest).map fun x => (a :: x.1, x.2) := by
  have shorter : rest.length < (TokenKind.mark ',' :: ks).length :=
    Nat.lt_succ_of_le (reads_suffix first).length_le
  have behind : (mark ',' >>= fun _ => item).reads (.mark ',' :: ks) = some (a, rest) := by
    simpa using first
  have middle := readsAll_of_some behind shorter
  rw [furtherItems, reads_bind, reads_bind, reads_many, reads_many, middle]
  simp only [Option.bind_some, reads_bind]
  rcases (oneOf conjunctions).reads _ with _ | ⟨u, later⟩
  · rfl
  · rw [Option.bind_some, Option.bind_some]
    cases item.reads later <;> simp

theorem furtherItems_cases {as : List α} {ks rest : List TokenKind}
    (read : (furtherItems conjunctions item).reads ks = some (as, rest)) :
    (∃ w ∈ conjunctions, ∃ later a, ks = .word w :: later ∧ item.reads later = some (a, rest) ∧
        as = [a]) ∨
      ∃ later a middle others, ks = .mark ',' :: later ∧ item.reads later = some (a, middle) ∧
        (furtherItems conjunctions item).reads middle = some (others, rest) ∧ as = a :: others := by
  rcases comma : (mark ',' >>= fun _ => item).reads ks with _ | ⟨a, middle⟩
  · obtain ⟨items, kept, all, read⟩ := parts_of_bind read
    rw [reads_many, readsAll_of_none comma] at all
    obtain ⟨rfl, rfl⟩ := Prod.mk.inj (Option.some.inj all)
    obtain ⟨u, later, conjunction, read⟩ := parts_of_bind read
    obtain ⟨a, last, own, read⟩ := parts_of_bind read
    obtain ⟨_, split, w, listed, rfl⟩ := (Derives.oneOf conjunctions).split conjunction
    obtain ⟨rfl, rfl⟩ := parts_of_pure read
    exact .inl ⟨w, listed, later, a, split, own, rfl⟩
  · obtain ⟨u, later, stroke, own⟩ := parts_of_bind comma
    obtain ⟨_, rfl, rfl⟩ := (Derives.mark ',').split stroke
    rw [List.singleton_append, reads_furtherItems_comma own] at read
    obtain ⟨⟨others, last⟩, further, same⟩ := Option.map_eq_some_iff.1 read
    obtain ⟨rfl, rfl⟩ := Prod.mk.inj same
    exact .inr ⟨later, a, middle, others, rfl, own, further, rfl⟩

theorem furtherItems_ne_nil {as : List α} {ks rest : List TokenKind}
    (read : (furtherItems conjunctions item).reads ks = some (as, rest)) : as ≠ [] := by
  obtain ⟨_, -, _, _, -, -, rfl⟩ | ⟨_, _, _, _, -, -, -, rfl⟩ := furtherItems_cases read <;>
    exact List.cons_ne_nil _ _

theorem enumeration_ne_nil {as : List α} {ks rest : List TokenKind}
    (read : (enumeration conjunctions item).reads ks = some (as, rest)) : as ≠ [] := by
  obtain ⟨first, middle, -, read⟩ := parts_of_bind read
  obtain ⟨others, last, -, read⟩ := parts_of_bind read
  obtain ⟨rfl, -⟩ := parts_of_pure read
  exact List.cons_ne_nil _ _

end FurtherItems

abbrev furtherAlternatives : Parser (List Alternative) :=
  furtherItems ["and", "or"] (alternative roomyMatch)

abbrev ownedStat : Parser Stat := do
  possessive
  stat

theorem reads_roomyMatch_single {ks rest : List TokenKind} {a : Alternative}
    (first : (alternative roomyMatch).reads ks = some (a, rest))
    (last : furtherAlternatives.reads rest = none) : roomyMatch.reads ks = some ([a], rest) := by
  simp [reads_roomyMatch, enumeration, first, last]

theorem reads_roomyMatch_cons {ks middle rest : List TokenKind} {a : Alternative} {m : CardMatch}
    (first : (alternative roomyMatch).reads ks = some (a, middle))
    (others : furtherAlternatives.reads middle = some (m, rest)) :
    roomyMatch.reads ks = some (a :: m, rest) := by
  simp [reads_roomyMatch, enumeration, first, others]

theorem roomyMatch_cases {m : CardMatch} {ks rest : List TokenKind}
    (read : roomyMatch.reads ks = some (m, rest)) :
    (∃ a, m = [a] ∧ (alternative roomyMatch).reads ks = some (a, rest) ∧
        furtherAlternatives.reads rest = none) ∨
      ∃ a others middle, m = a :: others ∧ (alternative roomyMatch).reads ks = some (a, middle) ∧
        furtherAlternatives.reads middle = some (others, rest) := by
  rw [reads_roomyMatch] at read
  obtain ⟨a, middle, first, read⟩ := parts_of_bind read
  obtain ⟨o, last, further, read⟩ := parts_of_bind read
  obtain ⟨rfl, rfl⟩ := parts_of_pure read
  obtain ⟨others, rfl, own⟩ | ⟨rfl, rfl, own⟩ := parts_of_optional further
  · exact .inr ⟨a, others, middle, rfl, first, own⟩
  · exact .inl ⟨a, rfl, first, own⟩

theorem roomyMatch_ne_nil {m : CardMatch} {ks rest : List TokenKind}
    (read : roomyMatch.reads ks = some (m, rest)) : m ≠ [] := by
  rw [reads_roomyMatch] at read
  exact enumeration_ne_nil read

theorem shorter_of_clause {m : CardMatch} {ks rest : List TokenKind}
    (read : (targetingClause roomyMatch).reads ks = some (m, rest)) : rest.length < ks.length := by
  obtain ⟨u, middle, own, later⟩ := parts_of_bind read
  obtain ⟨_, rfl, rfl⟩ := (Derives.words _).split own
  have := (reads_suffix later).length_le
  simp only [said, List.map_cons, List.map_nil, List.cons_append, List.nil_append, List.length_cons]
  omega

abbrev attributeOf (inner : Parser CardMatch) : Parser Count := do
  let owner ← inner
  possessive
  return .attribute owner (← stat)

theorem attributeOf_none_iff {inner : Parser CardMatch} [inner.Uniform] {ks : List TokenKind} :
    (attributeOf inner).reads ks = none ↔
      ∀ m later, inner.reads ks = some (m, later) → ownedStat.reads later = none := by
  cases own : inner.reads ks with
  | none => simp [attributeOf, own]
  | some x =>
    cases ending : possessive.reads x.2 <;>
      simp [attributeOf, ownedStat, own, Prod.ext_iff, ending]

theorem count_cases {inner : Parser CardMatch} [inner.Uniform] {c : Count}
    {ks rest : List TokenKind} (read : (count inner).reads ks = some (c, rest)) :
    (∃ m u middle, (words ["the", "number", "of"]).reads ks = some (u, middle) ∧
        inner.reads middle = some (m, rest) ∧ c = .numberOf m) ∨
      (∃ owner s middle, inner.reads ks = some (owner, middle) ∧
        ownedStat.reads middle = some (s, rest) ∧ c = .attribute owner s) ∨
      ∃ q, (attributeOf inner).reads ks = none ∧ quantity.reads ks = some (q, rest) ∧
        c = .value q := by
  rw [count, reads_orElse, reads_orElse] at read
  obtain number | ⟨-, read⟩ := Option.or_eq_some_iff.1 read
  · obtain ⟨u, middle, own, number⟩ := parts_of_bind number
    obtain ⟨m, last, counted, number⟩ := parts_of_bind number
    obtain ⟨rfl, rfl⟩ := parts_of_pure number
    exact .inl ⟨m, u, middle, own, counted, rfl⟩
  · obtain owned | ⟨noOwner, value⟩ := Option.or_eq_some_iff.1 read
    · obtain ⟨owner, middle, own, owned⟩ := parts_of_bind owned
      obtain ⟨u, word, ending, owned⟩ := parts_of_bind owned
      obtain ⟨s, last, named, owned⟩ := parts_of_bind owned
      obtain ⟨rfl, rfl⟩ := parts_of_pure owned
      exact .inr (.inl ⟨owner, s, middle, own, by simp [ownedStat, ending, named], rfl⟩)
    · obtain ⟨q, last, own, value⟩ := parts_of_bind value
      obtain ⟨rfl, rfl⟩ := parts_of_pure value
      exact .inr (.inr ⟨q, noOwner, own, rfl⟩)

theorem filter_of_alternative {f : CardFilter} {ks rest : List TokenKind}
    (read : (alternative roomyMatch).reads ks = some (.filter f, rest)) :
    ∃ middle, levels middle ≤ levels ks ∧
      (description roomyMatch).reads middle = some (f, rest) := by
  rw [alternative, reads_orElse, reads_orElse] at read
  obtain named | ⟨-, read⟩ := Option.or_eq_some_iff.1 read
  · obtain ⟨_, _, -, named⟩ := parts_of_bind named
    cases (parts_of_pure named).1
  · obtain pronoun | ⟨-, read⟩ := Option.or_eq_some_iff.1 read
    · obtain ⟨_, _, -, pronoun⟩ := parts_of_bind pronoun
      cases (parts_of_pure pronoun).1
    · obtain ⟨g, last, filter, read⟩ := parts_of_bind read
      obtain ⟨same, rfl⟩ := parts_of_pure read
      cases same
      obtain ⟨_, middle, article, filter⟩ := parts_of_bind filter
      exact ⟨middle, levels_le_of_reads article, (parts_of_consuming filter).1⟩

theorem clauses_cases {ms : List CardMatch} {ks rest : List TokenKind}
    (all : (targetingClause roomyMatch).readsAll ks = (ms, rest)) :
    (ms = [] ∧ ks = rest ∧ (targetingClause roomyMatch).reads ks = none) ∨
      ∃ m middle others, ms = m :: others ∧
        (targetingClause roomyMatch).reads ks = some (m, middle) ∧
        (targetingClause roomyMatch).readsAll middle = (others, rest) := by
  rcases own : (targetingClause roomyMatch).reads ks with _ | ⟨m, middle⟩
  · rw [readsAll_of_none own] at all
    obtain ⟨rfl, rfl⟩ := Prod.mk.inj all
    exact .inl ⟨rfl, rfl, rfl⟩
  · rw [readsAll_of_some own (shorter_of_clause own)] at all
    obtain ⟨rfl, rfl⟩ := Prod.mk.inj all
    exact .inr ⟨m, middle, _, rfl, rfl, rfl⟩

/-! ### What follows -/

/-- What follows a part of a match when it is printed, in place of what followed the part when it
was read: nothing more, the stat of its owner, the direction after its count, another clause about
targets, or further alternatives. -/
inductive Follows : List TokenKind → List TokenKind → Prop
  | nothing (rest : List TokenKind) : Follows rest [.endOfInput]
  | owner {rest rest' : List TokenKind} {s : Stat}
      (read : ownedStat.reads rest = some (s, rest')) (after : List TokenKind) :
      Follows rest (.mark '\'' :: .word "s" :: .word s.word :: after)
  | trail {rest rest' : List TokenKind} {d : Direction}
      (read : trailing.reads rest = some (d, rest')) (after : List TokenKind) :
      Follows rest (.word "or" :: .word d.word :: after)
  | clause {rest rest' after : List TokenKind} {m : CardMatch}
      (read : (targetingClause roomyMatch).reads rest = some (m, rest'))
      (again : (targetingClause roomyMatch).reads (m.targetSpelled ++ after) = some (m, after))
      (later : Follows rest' after) : Follows rest (m.targetSpelled ++ after)
  | others {rest rest' after : List TokenKind} {m : CardMatch} (some_left : m ≠ [])
      (read : furtherAlternatives.reads rest = some (m, rest'))
      (again : furtherAlternatives.reads
        (further (.word "or") (m.map Alternative.spelled) ++ after) = some (m, after))
      (later : Follows rest' after) :
      Follows rest (further (.word "or") (m.map Alternative.spelled) ++ after)

theorem further_cases {m : CardMatch} (some_left : m ≠ []) (after : List TokenKind) :
    ∃ k later, (k = .mark ',' ∨ k = .word "or") ∧ startsMatch (headKind later) ∧
      further (.word "or") (m.map Alternative.spelled) ++ after = k :: later := by
  obtain ⟨a, rest, rfl⟩ := List.exists_cons_of_ne_nil some_left
  by_cases single : rest = []
  · subst single
    exact ⟨_, _, .inr rfl, startsMatch_alternative a after, rfl⟩
  · rw [List.map_cons, Text.further_cons (by simpa using single), List.cons_append,
      List.append_assoc]
    exact ⟨_, _, .inl rfl, startsMatch_alternative a _, rfl⟩

namespace Follows

variable {rest after : List TokenKind}

theorem head (h : Follows rest after) :
    headKind after ∈
      [TokenKind.endOfInput, .mark '\'', .word "or", .word "that", .mark ','] := by
  cases h with
  | nothing | owner | trail | clause => simp [CardMatch.targetSpelled, headKind]
  | others some_left =>
    obtain ⟨k, later, first, -, split⟩ := further_cases some_left ‹_›
    rw [split]
    rcases first with rfl | rfl <;> simp

theorem startsTrait (h : Follows rest after) : startsTrait (headKind after) = false := by
  have all : ∀ k ∈ [TokenKind.endOfInput, .mark '\'', .word "or", .word "that", .mark ','],
      Grammar.startsTrait k = false := by decide
  exact all _ h.head

theorem head_ne (h : Follows rest after) {k : TokenKind}
    (other : k ∉ [TokenKind.endOfInput, .mark '\'', .word "or", .word "that", .mark ',']) :
    headKind after ≠ k := by
  rintro rfl
  exact other h.head

theorem startsDescription (h : Follows rest after) (noClause : headKind after ≠ .word "that") :
    startsDescription (headKind after) = false := by
  have all : ∀ k ∈ [TokenKind.endOfInput, .mark '\'', .word "or", .word "that", .mark ','],
      k ≠ .word "that" → Grammar.startsDescription k = false := by decide
  exact all _ h.head noClause

theorem keywords_none (h : Follows rest after) :
    (furtherItems ["and"] keyword).reads after = none := by
  refine furtherItems_none ?_ fun w listed => h.head_ne ?_
  · cases h with
    | nothing | owner | trail | clause => simp [CardMatch.targetSpelled, reads_mark, headKind]
    | others some_left =>
      obtain ⟨k, later, first, starts, split⟩ := further_cases some_left ‹_›
      have noKeyword : keyword.reads later = none :=
        keyword_none fun k => ne_of_starts starts (by cases k <;> decide)
      rw [split]
      simp [noKeyword]
  · obtain rfl := List.mem_singleton.1 listed
    decide

theorem clause_of_that (h : Follows rest after) (isThat : headKind after = .word "that") :
    ∃ m rest' after', (targetingClause roomyMatch).reads rest = some (m, rest') ∧
      (targetingClause roomyMatch).reads after = some (m, after') ∧ Follows rest' after' := by
  cases h with
  | clause read again later => exact ⟨_, _, _, read, again, later⟩
  | nothing | owner | trail => simp [headKind] at isThat
  | others some_left =>
    obtain ⟨k, later, first, -, split⟩ := further_cases some_left ‹_›
    rw [split] at isThat
    rcases first with rfl | rfl <;> simp at isThat

theorem of_clause {m : CardMatch} {after' : List TokenKind} (h : Follows rest after)
    (printed : (targetingClause roomyMatch).reads after = some (m, after')) :
    ∃ rest', (targetingClause roomyMatch).reads rest = some (m, rest') ∧ Follows rest' after' := by
  have isThat : headKind after = .word "that" := by
    by_contra other
    exact nomatch (targetingClause_none _ other).symm.trans printed
  obtain ⟨n, rest', later, read, again, follows⟩ := h.clause_of_that isThat
  obtain ⟨rfl, rfl⟩ := Prod.mk.inj (Option.some.inj (printed.symm.trans again))
  exact ⟨rest', read, follows⟩

theorem of_others {m : CardMatch} {after' : List TokenKind} (h : Follows rest after)
    (printed : furtherAlternatives.reads after = some (m, after')) :
    ∃ rest', furtherAlternatives.reads rest = some (m, rest') ∧ Follows rest' after' := by
  cases h with
  | others _ read again later =>
    obtain ⟨rfl, rfl⟩ := Prod.mk.inj (Option.some.inj (printed.symm.trans again))
    exact ⟨_, read, later⟩
  | @trail _ _ d _ later =>
    have noMatch : (alternative roomyMatch).reads (.word d.word :: later) = none :=
      alternative_none _ (by cases d <;> rfl)
    rw [furtherAlternatives, reads_furtherItems_last (by simp), noMatch] at printed
    cases printed
  | nothing | owner | clause =>
    refine absurd (printed.symm.trans (furtherItems_none ?_ ?_)) (by simp) <;>
      simp [CardMatch.targetSpelled, reads_mark, headKind]

theorem clause_none (h : Follows rest after)
    (stops : (targetingClause roomyMatch).reads rest = none) :
    (targetingClause roomyMatch).reads after = none := by
  rw [Option.eq_none_iff_forall_ne_some]
  rintro ⟨m, after'⟩ printed
  obtain ⟨rest', read, -⟩ := h.of_clause printed
  exact nomatch stops.symm.trans read

theorem others_none (h : Follows rest after) (stops : furtherAlternatives.reads rest = none) :
    furtherAlternatives.reads after = none := by
  rw [Option.eq_none_iff_forall_ne_some]
  rintro ⟨m, after'⟩ printed
  obtain ⟨rest', read, -⟩ := h.of_others printed
  exact nomatch stops.symm.trans read

theorem trail_none (h : Follows rest after) (stops : trailing.reads rest = none) :
    trailing.reads after = none := by
  cases h with
  | trail read => exact nomatch stops.symm.trans read
  | nothing | owner | clause =>
    simp [trailing, CardMatch.targetSpelled, reads_word, headKind]
  | others some_left =>
    obtain ⟨k, later, first, starts, split⟩ := further_cases some_left ‹_›
    have noDirection : direction.reads later = none :=
      direction_none fun d => ne_of_starts starts (by cases d <;> decide)
    rw [split]
    rcases first with rfl | rfl <;> simp [trailing, noDirection]

theorem owner_none (h : Follows rest after) (stops : ownedStat.reads rest = none) :
    ownedStat.reads after = none := by
  cases h with
  | owner read => exact nomatch stops.symm.trans read
  | nothing | trail | clause =>
    simp [ownedStat, possessive, CardMatch.targetSpelled, reads_mark, headKind]
  | others some_left =>
    obtain ⟨k, later, first, -, split⟩ := further_cases some_left ‹_›
    rw [split]
    rcases first with rfl | rfl <;> simp [ownedStat, possessive]

theorem clauses (h : Follows rest after) :
    ∃ ms restLast afterLast, (targetingClause roomyMatch).readsAll after = (ms, afterLast) ∧
      (targetingClause roomyMatch).readsAll rest =
        (ms ++ ((targetingClause roomyMatch).readsAll restLast).1,
          ((targetingClause roomyMatch).readsAll restLast).2) ∧
      Follows restLast afterLast := by
  fun_induction (targetingClause roomyMatch).readsAll after generalizing rest with
  | case1 after m after' printed shorter ih =>
    obtain ⟨rest', read, later⟩ := h.of_clause printed
    obtain ⟨ms, restLast, afterLast, all, stood, last⟩ := ih later
    refine ⟨m :: ms, restLast, afterLast, by rw [all], ?_, last⟩
    rw [readsAll_of_some read (shorter_of_clause read), stood]
    rfl
  | case2 after m after' printed idle => exact absurd (shorter_of_clause printed) idle
  | case3 after printed => exact ⟨[], rest, after, rfl, rfl, h⟩

end Follows

theorem reads_alternative_article {w : String} (article : w ∈ ["a", "an"])
    {ks later : List TokenKind}
    {ms : List CardMatch} (clauses : (targetingClause roomyMatch).readsAll ks = (ms, later))
    (some_left : ms ≠ []) :
    (alternative roomyMatch).reads (.word w :: ks) =
      some (.filter ⟨none, [], none, none, ms⟩, later) := by
  obtain ⟨m, after, own⟩ : ∃ m after, (targetingClause roomyMatch).reads ks = some (m, after) := by
    rcases own : (targetingClause roomyMatch).reads ks with _ | ⟨m, after⟩
    · rw [readsAll_of_none own] at clauses
      exact absurd (Prod.mk.inj clauses).1.symm some_left
    · exact ⟨m, after, rfl⟩
  have isThat : headKind ks = .word "that" := by
    by_contra other
    exact nomatch (targetingClause_none _ other).symm.trans own
  have shorter : later.length < ks.length := by
    rw [readsAll_of_some own (shorter_of_clause own)] at clauses
    obtain ⟨-, rfl⟩ := Prod.mk.inj clauses
    exact Nat.lt_of_le_of_lt (reads_suffix (p := many (targetingClause roomyMatch))
      (reads_many after)).length_le (shorter_of_clause own)
  have article' : w = "a" ∨ w = "an" := by simpa using article
  have pronoun : w ≠ ownName ∧ w ∉ ["this", "it"] := by rcases article' with rfl | rfl <;> decide
  have noWord (v : String) (h : v ≠ "that") : headKind ks ≠ .word v := by
    rw [isThat]; simpa using h.symm
  have designator := selector_none (noWord "the" (by decide)) (noWord "target" (by decide))
  have traits : trait.readsAll ks = ([], ks) :=
    readsAll_of_none (trait_none (by rw [isThat]; decide))
  have noun : (oneOf ["card", "cards"]).reads ks = none := oneOf_none (by simp [isThat])
  have without : lacking.reads ks = none := by simp [lacking, word_none, noWord "without"]
  have with_none := having_none roomyMatch (noWord "with" (by decide))
  simp [alternative, cardFilter, description, pronoun, article, designator, traits, noun, without,
    with_none, clauses, shorter.ne]

theorem Follows.article_owner {rest after later : List TokenKind} {m : CardMatch}
    (h : Follows rest after) {w : String} (article : w ∈ ["a", "an"])
    (noOwner : ∀ m later, roomyMatch.reads (.word w :: rest) = some (m, later) →
      ownedStat.reads later = none)
    (printed : roomyMatch.reads (.word "a" :: after) = some (m, later)) :
    ownedStat.reads later = none := by
  obtain ⟨ms, restLast, afterLast, all, stood, last⟩ := h.clauses
  have some_left : ms ≠ [] := by
    rintro rfl
    have noClause : headKind after ≠ .word "that" := fun isThat => by
      obtain ⟨m, -, after', -, own, -⟩ := h.clause_of_that isThat
      rw [readsAll_of_some own (shorter_of_clause own)] at all
      cases all
    have noMatch : roomyMatch.reads (.word "a" :: after) = none :=
      roomyMatch_none fun _ => cardMatch_article_none (h.startsDescription noClause)
    exact nomatch noMatch.symm.trans printed
  have first := reads_alternative_article (w := "a") (by simp) all some_left
  -- the clauses end where they ended, since something else is known to stand there
  have firstStood (noClause : headKind restLast ≠ .word "that") :
      (alternative roomyMatch).reads (.word w :: rest) =
        some (.filter ⟨none, [], none, none, ms⟩, restLast) := by
    rw [readsAll_of_none (targetingClause_none _ noClause), List.append_nil] at stood
    exact reads_alternative_article article stood some_left
  obtain ⟨a, rfl, own, single⟩ | ⟨a, others, middle, rfl, own, further⟩ := roomyMatch_cases printed
  · obtain ⟨rfl, rfl⟩ := Prod.mk.inj (Option.some.inj (own.symm.trans first))
    refine last.owner_none ?_
    by_contra owner
    have apostrophe : headKind restLast = .mark '\'' := by
      by_contra other
      exact owner (by simp [ownedStat, possessive, mark_none other])
    have noFurther : furtherAlternatives.reads restLast = none :=
      furtherItems_none (by simp [mark_none, apostrophe]) (by simp [apostrophe])
    exact owner (noOwner _ _ (reads_roomyMatch_single (firstStood (by simp [apostrophe]))
      noFurther))
  · obtain ⟨rfl, rfl⟩ := Prod.mk.inj (Option.some.inj (own.symm.trans first))
    obtain ⟨restOthers, furtherStood, follows⟩ := last.of_others further
    have noClause : headKind restLast ≠ .word "that" := by
      obtain ⟨v, listed, _, _, rfl, -⟩ | ⟨_, _, _, _, rfl, -⟩ := furtherItems_cases furtherStood
      · rw [headKind_cons]
        rintro isThat
        cases isThat
        simp at listed
      · simp
    exact follows.owner_none (noOwner _ _
      (reads_roomyMatch_cons (firstStood noClause) furtherStood))

theorem count_owned {c : Count} {ks rest : List TokenKind}
    (read : (count roomyMatch).reads ks = some (c, rest)) (m : CardMatch) (s : Stat)
    (same : c = .attribute m s) : m ≠ [] := by
  subst same
  obtain ⟨_, _, _, -, -, same⟩ | ⟨_, _, _, inner, -, same⟩ | ⟨_, -, -, same⟩ := count_cases read <;>
    cases same
  exact roomyMatch_ne_nil inner

/-! ### Reading again -/

section Again

variable {n : Nat}
  (ih : ∀ {ks m rest after}, levels ks < n → roomyMatch.reads ks = some (m, rest) →
    ArticleFree (CardMatch.filters m) → Follows rest after →
      roomyMatch.reads (CardMatch.spelled m ++ after) = some (m, after))

include ih

theorem count_again {c : Count} {ks rest after : List TokenKind} (few : levels ks < n)
    (read : (count roomyMatch).reads ks = some (c, rest)) (free : ArticleFree c.filters)
    (follows : Follows rest after) :
    (count roomyMatch).reads (c.spelled ++ after) = some (c, after) := by
  obtain ⟨m, u, middle, own, inner, rfl⟩ | ⟨owner, s, middle, inner, owned, rfl⟩ |
    ⟨q, noOwner, own, rfl⟩ := count_cases read
  · have again := ih (Nat.lt_of_le_of_lt (levels_le_of_reads own) few) inner free follows
    rw [CardMatch.spelled] at again
    simp [count, Count.spelled, alternativesSpelled_eq_map, again]
  · have again := ih few inner free (.owner owned after)
    have noNumber := words_number_none (roomyMatch_ne_nil inner)
      (.mark '\'' :: .word "s" :: .word s.word :: after)
    rw [CardMatch.spelled] at again noNumber
    simp [count, Count.spelled, alternativesSpelled_eq_map, again, noNumber, possessive, reads_stat]
  · have noOwnerAgain : (attributeOf roomyMatch).reads (q.kind :: after) = none := by
      refine attributeOf_none_iff.2 fun m later printed => ?_
      by_cases one : q = .one
      · subst one
        obtain ⟨_, rfl, phrase⟩ := derives_quantity.split own
        have noOwner := attributeOf_none_iff.1 noOwner
        cases phrase with
        | a => exact follows.article_owner (w := "a") (by simp) noOwner printed
        | an => exact follows.article_owner (w := "an") (by simp) noOwner printed
      · have noMatch : roomyMatch.reads (q.kind :: after) = none := roomyMatch_none fun _ =>
          cardMatch_quantity_none (fun same => absurd same one) (follows.head_ne (by decide))
        rw [noMatch] at printed
        cases printed
    have noNumber : q.kind ≠ .word "the" := by cases q <;> simp [Quantity.kind]
    rw [count, reads_orElse, reads_orElse, Count.spelled, List.singleton_append, noOwnerAgain]
    simp [noNumber, reads_quantity]

theorem comparison_again {c : Comparison} {ks rest after : List TokenKind} (few : levels ks < n)
    (read : (comparison roomyMatch).reads ks = some (c, rest)) (free : ArticleFree c.filters)
    (follows : Follows rest after) :
    (comparison roomyMatch).reads (c.spelled ++ after) = some (c, after) := by
  obtain ⟨lead, middle, before, read⟩ := parts_of_bind read
  obtain ⟨c, last, own, read⟩ := parts_of_bind read
  obtain ⟨trail, rest', behind, read⟩ := parts_of_bind read
  obtain ⟨rfl, rfl⟩ := parts_of_pure read
  have few : levels middle < n := Nat.lt_of_le_of_lt (levels_le_of_reads before) few
  have inner : (count roomyMatch).reads (c.spelled ++ (Direction.trailSpelled trail ++ after)) =
      some (c, Direction.trailSpelled trail ++ after) := by
    obtain ⟨d, rfl, stood⟩ | ⟨rfl, rfl, -⟩ := parts_of_optional behind
    · exact count_again ih few own free (.trail stood after)
    · exact count_again ih few own free follows
  have lead_again := reads_optional_leading lead (count_owned own)
    (Direction.trailSpelled trail ++ after)
  have trail_again := reads_optional_trailing trail after fun same => by
    subst same
    obtain ⟨_, same, -⟩ | ⟨-, rfl, stops⟩ := parts_of_optional behind
    · cases same
    · exact follows.trail_none stops
  rw [comparison, Comparison.spelled, List.append_assoc, List.append_assoc]
  simp [-reads_optional, lead_again, inner, trail_again]

theorem having_again {h : Having} {ks rest after : List TokenKind} (few : levels ks < n + 1)
    (read : (having roomyMatch).reads ks = some (h, rest)) (free : ArticleFree h.filters)
    (follows : Follows rest after) :
    (having roomyMatch).reads (.word "with" :: (h.spelled ++ after)) = some (h, after) := by
  obtain ⟨_, middle, opening, read⟩ := parts_of_bind read
  have := levels_of_word rfl opening
  rw [reads_orElse] at read
  obtain listed | ⟨-, read⟩ := Option.or_eq_some_iff.1 read
  · obtain ⟨keywords, last, own, read⟩ := parts_of_bind listed
    obtain ⟨rfl, rfl⟩ := parts_of_pure read
    have some_left : keywords ≠ [] := enumeration_ne_nil own
    have again : (enumeration ["and"] keyword).reads (keywordsSpelled keywords ++ after) =
        some (keywords, after) :=
      reads_enumeration (by simp) some_left (fun _ k _ _ => reads_keyword k _) fun _ =>
        follows.keywords_none
    simp [having, Having.spelled, again]
  · obtain ⟨s, last, word, read⟩ := parts_of_bind read
    obtain ⟨c, rest', own, read⟩ := parts_of_bind read
    obtain ⟨rfl, rfl⟩ := parts_of_pure read
    have lower := levels_le_of_reads word
    have again := comparison_again ih (by omega) own free follows
    have noKeyword : keyword.reads (.word s.word :: (c.spelled ++ after)) = none :=
      keyword_none fun k => by cases k <;> cases s <;> simp [Keyword.word, Stat.word]
    simp [having, Having.spelled, enumeration, noKeyword, reads_stat, again]

theorem clauses_again {ms : List CardMatch} {ks rest after : List TokenKind}
    (few : levels ks < n + 1) (read : (targetingClause roomyMatch).readsAll ks = (ms, rest))
    (free : ArticleFree (targetingFilters ms)) (follows : Follows rest after) :
    (targetingClause roomyMatch).readsAll (targetingSpelled ms ++ after) = (ms, after) ∧
      Follows ks (targetingSpelled ms ++ after) := by
  induction ms generalizing ks with
  | nil =>
    obtain ⟨-, rfl, stops⟩ | ⟨_, _, _, nonempty, -⟩ := clauses_cases read
    · exact ⟨readsAll_of_none (follows.clause_none stops), follows⟩
    · cases nonempty
  | cons m ms later =>
    obtain ⟨empty, -⟩ | ⟨m, middle, others, same, own, read⟩ := clauses_cases read
    · cases empty
    · cases same
      obtain ⟨freeFirst, freeOthers⟩ := ArticleFree.append_iff.1 free
      obtain ⟨all, followsFirst⟩ :=
        later (Nat.lt_of_le_of_lt (levels_le_of_reads own) few) read freeOthers
      have first : (targetingClause roomyMatch).reads
          (CardMatch.targetSpelled m ++ (targetingSpelled ms ++ after)) =
            some (m, targetingSpelled ms ++ after) := by
        obtain ⟨u, inside, words, inner⟩ := parts_of_bind own
        have := levels_of_words rfl words
        have again := ih (by omega) inner freeFirst followsFirst
        simp [targetingClause, CardMatch.targetSpelled, again]
      have spelled : targetingSpelled (m :: ms) ++ after =
          CardMatch.targetSpelled m ++ (targetingSpelled ms ++ after) := by
        simp [targetingSpelled_eq_flatMap]
      rw [spelled]
      exact ⟨by rw [readsAll_of_some first (shorter_of_clause first), all],
        .clause own first followsFirst⟩

theorem description_again {f : CardFilter} {ks rest after : List TokenKind}
    (few : levels ks < n + 1) (read : (description roomyMatch).reads ks = some (f, rest))
    (free : ArticleFree f.filters) (follows : Follows rest after) :
    (description roomyMatch).reads (f.spelled ++ after) = some (f, after) := by
  obtain ⟨chosen, atTraits, designator, read⟩ := parts_of_bind read
  obtain ⟨traits, atNoun, own, read⟩ := parts_of_bind read
  obtain ⟨u, atLacking, noun, read⟩ := parts_of_bind read
  obtain ⟨without, atHaving, lacks, read⟩ := parts_of_bind read
  obtain ⟨has, atClauses, qualifier, read⟩ := parts_of_bind read
  obtain ⟨targeting, last, clauses, read⟩ := parts_of_bind read
  obtain ⟨rfl, rfl⟩ := parts_of_pure read
  rw [reads_many] at clauses
  obtain ⟨-, freeHaving, freeTargeting⟩ := ArticleFree.filter_iff.1 free
  have few : levels atHaving < n + 1 := by
    have := levels_le_of_reads designator
    have := levels_le_of_reads own
    have := levels_le_of_reads noun
    have := levels_le_of_reads lacks
    omega
  obtain ⟨all, followsHaving⟩ := clauses_again ih
    (Nat.lt_of_le_of_lt (levels_le_of_reads qualifier) few) (Option.some.inj clauses) freeTargeting
    follows
  refine reads_description_parts (fun _ => ?_) ?_ ?_ all
  · exact headKind_qualifiers_of (P := fun k =>
      startsTrait k = false ∧ k ≠ .word "card" ∧ k ≠ .word "cards") (by decide) fun _ _ _ =>
        ⟨follows.startsTrait, follows.head_ne (by decide), follows.head_ne (by decide)⟩
  · exact headKind_having_of (P := (· ≠ .word "without")) (by decide) fun _ _ =>
      follows.head_ne (by decide)
  · obtain ⟨h, rfl, own⟩ | ⟨rfl, rfl, -⟩ := parts_of_optional qualifier
    · have again := having_again ih few own freeHaving followsHaving
      simp [havingSpelled, again]
    · have noHaving := having_none roomyMatch
        (followsHaving.head_ne (k := .word "with") (by decide))
      simp [havingSpelled, noHaving]

theorem alternative_again {a : Alternative} {ks rest after : List TokenKind}
    (few : levels ks < n + 1) (read : (alternative roomyMatch).reads ks = some (a, rest))
    (free : ArticleFree a.filters) (follows : Follows rest after) :
    (alternative roomyMatch).reads (a.spelled ++ after) = some (a, after) := by
  cases a with
  | named => simp [alternative, Alternative.spelled]
  | this => simp [alternative, Alternative.spelled, ownName]
  | filter f =>
    obtain ⟨middle, behindArticle, own⟩ := filter_of_alternative read
    exact reads_alternative_filter (f.not_startsWithArticle_iff.1 (ArticleFree.filter_iff.1 free).1)
      (description_again ih (Nat.lt_of_le_of_lt behindArticle few) own free follows)

theorem others_again {m : CardMatch} {ks rest after : List TokenKind} (few : levels ks < n + 1)
    (read : furtherAlternatives.reads ks = some (m, rest)) (free : ArticleFree m.filters)
    (follows : Follows rest after) :
    furtherAlternatives.reads (further (.word "or") (m.map Alternative.spelled) ++ after) =
        some (m, after) ∧
      Follows ks (further (.word "or") (m.map Alternative.spelled) ++ after) := by
  have again : furtherAlternatives.reads
    (further (.word "or") (m.map Alternative.spelled) ++ after) =
      some (m, after) := by
    induction m generalizing ks with
    | nil => exact absurd rfl (furtherItems_ne_nil read)
    | cons a others later =>
      obtain ⟨freeFirst, freeOthers⟩ := ArticleFree.append_iff.1 free
      obtain ⟨w, listed, behind, b, rfl, own, same⟩ |
        ⟨behind, b, middle, bs, rfl, own, read, same⟩ := furtherItems_cases read <;> cases same
      · have fewer := Nat.lt_of_le_of_lt (levels_le_of_suffix (List.suffix_cons _ behind)) few
        have last := alternative_again ih fewer own freeFirst follows
        rw [List.map_cons, List.map_nil, further, List.cons_append]
        rw [reads_furtherItems_last (by simp), last, Option.map_some]
      · have fewer := Nat.lt_of_le_of_lt (levels_le_of_suffix (List.suffix_cons _ behind)) few
        have some_left := furtherItems_ne_nil read
        have all := later (Nat.lt_of_le_of_lt (levels_le_of_reads own) fewer) read freeOthers
        have first := alternative_again ih fewer own freeFirst (.others some_left read all follows)
        rw [List.map_cons, Text.further_cons (by simpa using some_left), List.cons_append,
          List.append_assoc, reads_furtherItems_comma first, all, Option.map_some]
  exact ⟨again, .others (furtherItems_ne_nil read) read again follows⟩

end Again

/-- A match that was read is read again where it is printed, up to what follows it there. -/
theorem roomyMatch_again {m : CardMatch} {ks rest after : List TokenKind}
    (read : roomyMatch.reads ks = some (m, rest)) (free : ArticleFree m.filters)
    (follows : Follows rest after) :
    roomyMatch.reads (m.spelled ++ after) = some (m, after) := by
  have again (n : Nat) {ks m rest after} (few : levels ks < n)
      (read : roomyMatch.reads ks = some (m, rest)) (free : ArticleFree (CardMatch.filters m))
      (follows : Follows rest after) :
      roomyMatch.reads (CardMatch.spelled m ++ after) = some (m, after) := by
    induction n generalizing ks m rest after with
    | zero => exact absurd few (Nat.not_lt_zero _)
    | succ n ih =>
      obtain ⟨a, rfl, own, single⟩ | ⟨a, others, middle, rfl, own, read⟩ := roomyMatch_cases read
      · obtain ⟨freeFirst, -⟩ := ArticleFree.append_iff.1 free
        have first := alternative_again ih few own freeFirst follows
        have spelled : CardMatch.spelled [a] = a.spelled := by
          simp [CardMatch.spelled, enumerated, further]
        rw [spelled]
        exact reads_roomyMatch_single first (follows.others_none single)
      · obtain ⟨freeFirst, freeOthers⟩ := ArticleFree.append_iff.1 free
        obtain ⟨all, followsFirst⟩ := others_again ih
          (Nat.lt_of_le_of_lt (levels_le_of_reads own) few) read freeOthers follows
        have first := alternative_again ih few own freeFirst followsFirst
        rw [CardMatch.spelled, List.map_cons, enumerated, List.append_assoc]
        exact reads_roomyMatch_cons first all
  exact again (levels ks + 1) (Nat.lt_succ_self _) read free follows

theorem kinds_tokens (text : String) :
    Cursor.kinds ⟨0, Text.tokens text⟩ = Text.kinds text ++ [.endOfInput] :=
  Text.map_kind_tokensFrom 0 text.toList

theorem unsigned_tokens (text : String) : Unsigned (Cursor.kinds ⟨0, Text.tokens text⟩) := by
  intro n mem
  rw [kinds_tokens] at mem
  obtain mem | mem := List.mem_append.1 mem
  · exact Text.nonnegative_of_mem_scan mem
  · simp at mem

/-- While there are fewer levels than there is room for, a match that was read is read again from
its printed form, up to the end. -/
theorem cardMatch_text {cursor next : Cursor} {notes : Notes} {m : CardMatch}
    (unsigned : Unsigned cursor.kinds) (shallow : levels cursor.kinds < maxMatchDepth)
    (read : (cardMatch cursor notes).1 = some (m, next)) (free : ArticleFree m.filters)
    (later : Notes) :
    ∃ last, (cardMatch ⟨0, Text.tokens (m.text ownName)⟩ later).1 = some (m, last) ∧
      last.kinds = [.endOfInput] := by
  have stood := reads_of_some (p := cardMatch) read
  have printable : m.Printable maxMatchDepth := yields_cardMatch.holds unsigned stood
  have roomy : roomyMatch.reads cursor.kinds = some (m, next.kinds) := by
    rw [← agree_roomyMatch _ _ shallow]
    exact stood
  have again := roomyMatch_again roomy free (.nothing _)
  have still : levels (m.spelled ++ [.endOfInput]) < maxMatchDepth := by
    have := (weighs_cardMatchWithin maxMatchDepth).le stood
    rw [levels_append, levels_cons_other rfl, levels_nil]
    omega
  have tokens : Cursor.kinds ⟨0, Text.tokens (m.text ownName)⟩ = m.spelled ++ [.endOfInput] := by
    rw [kinds_tokens, CardMatch.kinds_text printable]
  have whole : cardMatch.outcome ⟨0, Text.tokens (m.text ownName)⟩ later =
      some (m, [.endOfInput]) := by
    rw [Uniform.outcome_eq, tokens, ← again]
    exact agree_roomyMatch _ _ still
  obtain ⟨⟨_, last⟩, result, same⟩ := Option.map_eq_some_iff.1 whole
  obtain ⟨rfl, rest⟩ := Prod.mk.inj same
  exact ⟨last, result, rest⟩

def aCard : CardMatch :=
  [.filter ⟨none, [], none, none, []⟩]

def healthyOrThis : CardMatch :=
  [.filter ⟨none, [.activated], none, some (.comparison .health
    ⟨some .greater, .attribute aCard .damage, none⟩), []⟩, .this]

theorem cardMatch_text_healthyOrThis :
    (cardMatch ⟨0, Text.tokens "an activated with health greater then a card's damage and it"⟩
        .start).1 = some (healthyOrThis, ⟨13, [⟨.endOfInput, ⟨60, 60⟩⟩]⟩) ∧
      healthyOrThis.text ownName = "activated card with health greater than card's damage or this" ∧
      ∃ last, (cardMatch ⟨0, Text.tokens (healthyOrThis.text ownName)⟩ .start).1 =
          some (healthyOrThis, last) ∧ last.kinds = [.endOfInput] := by
  have read : (cardMatch
      ⟨0, Text.tokens "an activated with health greater then a card's damage and it"⟩ .start).1 =
        some (healthyOrThis, ⟨13, [⟨.endOfInput, ⟨60, 60⟩⟩]⟩) := by decide +kernel
  exact ⟨read, by decide +kernel,
    cardMatch_text (unsigned_tokens _) (by decide +kernel) read (by decide) .start⟩

/-! ### Where there is no more room -/

def aUnit (has : Option Having) (targeting : List CardMatch) : Alternative :=
  .filter ⟨none, [.kind ⟨.unit, false⟩], none, has, targeting⟩

/-- Units that target units, and so on, and at last what a match stands for. -/
def targeters (m : CardMatch) : Nat → CardMatch
  | 0 => m
  | n + 1 => [aUnit none [targeters m n]]

def targetersWritten (ks : List TokenKind) : Nat → List TokenKind
  | 0 => ks
  | n + 1 => .word "unit" :: .word "that" :: .word "targets" :: targetersWritten ks n

theorem reads_targeter {room : Nat} {m : CardMatch} {ks : List TokenKind}
    (inner : (cardMatchWithin room).reads ks = some (m, [.endOfInput])) :
    (cardMatchWithin (room + 1)).reads (.word "unit" :: .word "that" :: .word "targets" :: ks) =
      some ([aUnit none [m]], [.endOfInput]) := by
  have noSelector (ks : List TokenKind) : selector.reads (.word "unit" :: ks) = none :=
    selector_none (by simp) (by simp)
  have traits (ks : List TokenKind) : trait.readsAll (.word "unit" :: .word "that" :: ks) =
      ([.kind ⟨.unit, false⟩], .word "that" :: ks) := by
    have kind : trait.reads (.word "unit" :: .word "that" :: ks) =
        some (.kind ⟨.unit, false⟩, .word "that" :: ks) := reads_trait (.kind ⟨.unit, false⟩) _
    have noMore : trait.reads (.word "that" :: ks) = none := trait_none rfl
    rw [readsAll_of_some kind (by simp), readsAll_of_none noMore]
  have noHaving (ks : List TokenKind) :
      (having (cardMatchWithin room)).reads (.word "that" :: ks) = none :=
    having_none _ (by simp)
  have clauses : (targetingClause (cardMatchWithin room)).readsAll
      (.word "that" :: .word "targets" :: ks) = ([m], [.endOfInput]) := by
    have one : (targetingClause (cardMatchWithin room)).reads
        (.word "that" :: .word "targets" :: ks) = some (m, [.endOfInput]) := by
      simp [targetingClause, inner]
    rw [readsAll_of_some one (by simp), readsAll_of_none (targetingClause_none _ (by simp))]
  have whole : (description (cardMatchWithin room)).reads
      (.word "unit" :: .word "that" :: .word "targets" :: ks) =
        some (⟨none, [.kind ⟨.unit, false⟩], none, none, [m]⟩, [.endOfInput]) := by
    simp [description, noSelector, traits, lacking, noHaving, clauses]
  have first : (alternative (cardMatchWithin room)).reads
      (.word "unit" :: .word "that" :: .word "targets" :: ks) =
        some (aUnit none [m], [.endOfInput]) := by
    simp [alternative, cardFilter, ownName, whole, aUnit]
  have noOthers : (furtherItems ["and", "or"] (alternative (cardMatchWithin room))).reads
      [.endOfInput] = none := furtherItems_none (by simp) (by simp)
  simp [cardMatchWithin, enumeration, first, noOthers]

theorem reads_targeters {room : Nat} {m : CardMatch} {ks : List TokenKind}
    (last : (cardMatchWithin room).reads ks = some (m, [.endOfInput])) (n : Nat) :
    (cardMatchWithin (room + n)).reads (targetersWritten ks n) =
      some (targeters m n, [.endOfInput]) := by
  induction n with
  | zero => exact last
  | succ n ih => exact reads_targeter ih

theorem spelled_targeters (m : CardMatch) (n : Nat) (ks : List TokenKind) :
    (targeters m n).spelled ++ ks = targetersWritten (m.spelled ++ ks) n := by
  induction n with
  | zero => rfl
  | succ n ih =>
    rw [targetersWritten, ← ih]
    simp [targeters, aUnit, CardMatch.spelled, enumerated, further, Alternative.spelled,
      CardFilter.spelled, Trait.spelled, nounSpelled, lackingSpelled, havingSpelled,
      targetingSpelled_eq_flatMap, CardMatch.targetSpelled, Trait.isKind]
    rfl

theorem targeters_inj {m other : CardMatch} {n : Nat} (same : targeters m n = targeters other n) :
    m = other := by
  induction n with
  | zero => exact same
  | succ n ih => exact ih (by simpa [targeters, aUnit] using same)

theorem articleFree_targeters {m : CardMatch} (free : ArticleFree m.filters) (n : Nat) :
    ArticleFree (targeters m n).filters := by
  induction n with
  | zero => exact free
  | succ n ih =>
    refine ArticleFree.append_iff.2 ⟨?_, by decide⟩
    refine ArticleFree.filter_iff.2 ⟨rfl, List.forall_mem_nil _, ArticleFree.targeting_iff.2 ?_⟩
    simpa using ih

theorem levels_targetersWritten (ks : List TokenKind) (n : Nat) :
    levels (targetersWritten ks n) = levels ks + n := by
  induction n with
  | zero => rfl
  | succ n ih => simp [targetersWritten, levels_cons, ih, opensMatch]; omega

def damageOf (m : CardMatch) : Having :=
  .comparison .damage ⟨none, .numberOf m, none⟩

/-- A unit with a count, and what targets a unit. -/
def crowded : List TokenKind :=
  said ["unit", "with", "damage", "the", "number", "of", "unit", "or", "that", "targets", "unit"]
    ++ [.endOfInput]

/-- What is read at two levels without more room: an alternative after the count. -/
def afterCount : CardMatch :=
  [aUnit (some (damageOf [aUnit none []])) [], .filter ⟨none, [], none, none, [[aUnit none []]]⟩]

/-- What its printed form is read as: the noun is an alternative within the count. -/
def withinCount : CardMatch :=
  [aUnit (some (damageOf [aUnit none [], .filter ⟨none, [], none, none, []⟩])) [[aUnit none []]]]

theorem exists_not_read_again (n : Nat) :
    ∃ ks m, levels ks = 2 + n ∧ ArticleFree (CardMatch.filters m) ∧
      (cardMatchWithin (2 + n)).reads ks = some (m, [.endOfInput]) ∧
      (cardMatchWithin (2 + n)).reads (CardMatch.spelled m ++ [.endOfInput]) ≠
        some (m, [.endOfInput]) := by
  have base : (cardMatchWithin 2).reads crowded = some (afterCount, [.endOfInput]) := by
    decide +kernel
  have again : (cardMatchWithin 2).reads (afterCount.spelled ++ [.endOfInput]) =
      some (withinCount, [.endOfInput]) := by decide +kernel
  refine ⟨targetersWritten crowded n, targeters afterCount n, ?_,
    articleFree_targeters (by decide) n, reads_targeters base n, fun same => ?_⟩
  · have two : levels crowded = 2 := by decide
    rw [levels_targetersWritten, two]
  · rw [spelled_targeters, reads_targeters again n] at same
    have := targeters_inj (Prod.mk.inj (Option.some.inj same)).1
    exact absurd (congrArg List.length this) (by decide)

end CardGame.Grammar
