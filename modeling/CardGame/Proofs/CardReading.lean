import CardGame.Grammar.Card
import CardGame.Proofs.AbilityReading

/-!
Reading printed cards. The tokens of a clear card are read back into it, line after line, although
the parser sees no lines.
-/

namespace CardGame.Grammar

open CardGame.Grammar.Parser
open Text (TokenKind)

/-! ### Uniformity -/

instance : Uniform cardName := uniform_token rfl fun _ => rfl

instance : Uniform subtypes := by unfold subtypes; infer_instance

instance : Uniform sentence := by unfold sentence; infer_instance

instance : Uniform card := by unfold card; infer_instance

/-! ### After the abilities -/

theorem cardClause_none {ks : List TokenKind} (h : ∀ k ∈ ks, startsCardEffect k = false) :
    cardClause.reads ks = none := by
  have noEffect {rest : List TokenKind} (later : rest <:+ ks) :
      (sequenceOf cardEffect).reads rest = none := by
    have head : startsCardEffect (headKind rest) = false := by
      cases rest with
      | nil => rfl
      | cons k rest => exact h k (later.subset List.mem_cons_self)
    simp [sequenceOf, cardEffect_none head]
  rw [cardClause, reads_bind]
  rcases subject : (optional cardMatch).reads ks with _ | ⟨m, rest⟩
  · rfl
  · rw [Option.bind_some, reads_bind, noEffect (reads_suffix subject)]
    rfl

theorem effect_none_of_kinds {ks : List TokenKind} (noPlayer : startsPlayer (headKind ks) = false)
    (noEffect : startsPlayerEffect (headKind ks) = false)
    (noVerb : ∀ k ∈ ks, startsCardEffect k = false) : effect.reads ks = none := by
  simp [effect, playerClause_none noPlayer noEffect, cardClause_none noVerb]

def closing (printed : Option Stats) : List TokenKind :=
  printed.toList.flatMap Stats.spelled ++ [.endOfInput]

theorem quantity_kind_ne (q : Quantity) {w : String} (h : w ∉ ["a", "x"]) : q.kind ≠ .word w := by
  rintro e
  cases q <;> simp_all [Quantity.kind]

theorem sentence_closing (printed : Option Stats) : sentence.reads (closing printed) = none := by
  have noAbility : ability.reads (closing printed) = none := by
    cases printed with
    | none =>
      have noKeyword : keyword.reads (closing none) = none := keyword_none (by simp [closing])
      exact ability_none noKeyword (effect_none rfl) (by simp [closing]) (by simp [closing])
    | some s =>
      have noVerb (q : Quantity) : startsCardEffect q.kind = false := by cases q <;> rfl
      refine ability_none (keyword_none fun k => quantity_kind_ne _ (by cases k <;> decide)) ?_ ?_
        fun w listed => quantity_kind_ne _ (by
          simp only [List.mem_cons, List.not_mem_nil, or_false] at listed
          rcases listed with rfl | rfl <;> decide)
      · refine effect_none_of_kinds ?_ ?_ ?_
        · show startsPlayer s.power.kind = false
          cases s.power <;> rfl
        · show startsPlayerEffect s.power.kind = false
          cases s.power <;> rfl
        · simp [closing, Stats.spelled, noVerb]
          decide
      · show s.power.kind ≠ _
        cases s.power <;> simp [Quantity.kind]
  simp [sentence, noAbility]

def body (abilities : List Ability) (printed : Option Stats) : List TokenKind :=
  abilities.flatMap Ability.spelled ++ closing printed

theorem headKind_closing (printed : Option Stats) :
    headKind (closing printed) = .endOfInput ∨ ∃ q : Quantity,
      headKind (closing printed) = q.kind := by
  cases printed with
  | none => exact .inl rfl
  | some s => exact .inr ⟨s.power, rfl⟩

theorem headKind_body {abilities : List Ability} (printable : ∀ a ∈ abilities, a.Printable)
    (printed : Option Stats) :
    beginsAbility (headKind (body abilities printed)) ∨ headKind (body abilities printed) =
      .endOfInput
      ∨ ∃ q : Quantity, headKind (body abilities printed) = q.kind := by
  cases abilities with
  | nil => exact .inr (headKind_closing printed)
  | cons a rest =>
    rw [body, List.flatMap_cons, List.append_assoc]
    exact .inl (beginsAbility_spelled (printable a List.mem_cons_self) _)

theorem headKind_body_ne {abilities : List Ability} (printable : ∀ a ∈ abilities, a.Printable)
    (printed : Option Stats) {k : TokenKind} (noAbility : beginsAbility k = false)
    (noNumber : startsQuantity k = false) (notEnd : k ≠ .endOfInput) :
    headKind (body abilities printed) ≠ k := by
  rcases headKind_body printable printed with head | head | ⟨q, head⟩
  · exact ne_of_starts head noAbility
  · rw [head]
    exact notEnd.symm
  · rw [head]
    exact ne_of_starts (startsQuantity_kind q) noNumber

theorem readsAll_sentence {abilities : List Ability} (printable : ∀ a ∈ abilities, a.Printable)
    (clear : abilities.all Ability.isClear) (printed : Option Stats) :
    sentence.readsAll (body abilities printed) = (abilities, closing printed) := by
  refine readsAll_flatMap (fun before a rest split => ?_) (fun a mem e => ?_)
    (sentence_closing printed)
  · have aPrintable : a.Printable := printable a (by rw [split]; simp)
    have own := reads_ability aPrintable (List.all_eq_true.1 clear a (by rw [split]; simp))
      (body rest printed)
    have later : ∀ b ∈ rest, b.Printable := fun b mem => printable b (by rw [split]; simp [mem])
    have noComma : (mark ',').reads (body rest printed) = none :=
      mark_none (headKind_body_ne later printed (by decide) rfl (by simp))
    rw [body] at own noComma
    simp [sentence, own, noComma]
  · have begins := beginsAbility_spelled (printable a mem) []
    rw [e] at begins
    exact nomatch begins

theorem reads_subtypes (peoples : List CardSubtype) {abilities : List Ability}
    (printable : ∀ a ∈ abilities, a.Printable) (printed : Option Stats) :
    subtypes.reads (subtypesSpelled peoples ++ body abilities printed) =
      some (peoples, body abilities printed) := by
  cases peoples with
  | nil =>
    have noDash : (mark '-').reads (body abilities printed) = none :=
      mark_none (headKind_body_ne printable printed (by decide) rfl (by simp))
    simp [subtypes, subtypesSpelled, noDash]
  | cons s rest =>
    have noSubtype : subtype.reads (body abilities printed) = none :=
      wordAs_none fun w e => List.find?_eq_none.2 fun t _ same =>
        headKind_body_ne printable printed (k := .word t.word) (by cases t <;> decide)
          (by cases t <;> rfl) (by simp) (by rw [e, eq_of_beq same])
    have all := readsAll_flatMap_of_reads (s :: rest) reads_subtype
      (fun _ => List.cons_ne_nil _ _) noSubtype
    rw [← List.map_eq_flatMap] at all
    simp only [List.map_cons, List.cons_append] at all
    simp [subtypes, subtypesSpelled, all]

theorem kindWord_none {ks : List TokenKind} (h : startsKind (headKind ks) = false) :
    kindWord.reads ks = none :=
  wordAs_none fun w e => by
    rw [e, startsKind] at h
    simpa using h

theorem ability_spelled_ne_nil {a : Ability} (printable : a.Printable) : a.spelled ≠ [] := by
  intro e
  have begins := beginsAbility_spelled printable []
  rw [e] at begins
  exact nomatch begins

def afterKinds (c : Card) : List TokenKind :=
  subtypesSpelled c.subtypes ++ body c.abilities c.stats

theorem startsKind_afterKinds {c : Card} (printable : c.Printable) :
    startsKind (headKind (afterKinds c)) = !c.lineEnds := by
  unfold afterKinds Card.lineEnds
  cases peoples : c.subtypes with
  | cons s rest => rfl
  | nil =>
    cases abilities : c.abilities with
    | nil =>
      show startsKind (headKind (closing c.stats)) = false
      rcases headKind_closing c.stats with head | ⟨q, head⟩
      · rw [head]
        rfl
      · rw [head]
        cases q <;> rfl
    | cons a rest =>
      obtain ⟨k, ks, spelled⟩ := List.exists_cons_of_ne_nil
        (ability_spelled_ne_nil (printable.abilities a (by simp [abilities])))
      simp [subtypesSpelled, body, spelled]

theorem reads_kindWords {kindWords : List KindWord} (nonempty : kindWords ≠ [])
    (after : List TokenKind) :
    (many1 kindWord).reads (kindWords.map (fun k => .word k.text) ++ after) =
      some (kindWords ++ (kindWord.readsAll after).1, (kindWord.readsAll after).2) := by
  obtain ⟨k, rest, rfl⟩ := List.exists_cons_of_ne_nil nonempty
  have others : kindWord.readsAll (rest.flatMap (fun k => [.word k.text]) ++ after) =
      (rest ++ (kindWord.readsAll after).1, (kindWord.readsAll after).2) :=
    readsAll_flatMap_append (fun _ k _ _ => reads_kindWord k _) fun _ _ => List.cons_ne_nil _ _
  rw [← List.map_eq_flatMap] at others
  simp [many1, reads_kindWord, others]

theorem reads_optional_stats (printed : Option Stats) :
    (optional stats).reads (closing printed) = some (printed, [.endOfInput]) := by
  cases printed with
  | none =>
    have noStats : quantity.reads [.endOfInput] = none := quantity_none rfl
    simp [closing, stats, noStats]
  | some s => simp [closing]

theorem reads_cardName (ks : List TokenKind) :
    cardName.reads (.word ownName :: ks) = some (ownName, ks) := by
  rw [cardName, reads_token]
  rfl

theorem readsAll_costSymbol {c : Card} (printable : c.Printable) (ks : List TokenKind) :
    costSymbol.readsAll (c.costs.flatMap CostSymbol.spelled
        ++ (c.kinds.map (fun k => .word k.text) ++ ks)) =
      (c.costs, c.kinds.map (fun k => .word k.text) ++ ks) := by
  obtain ⟨k, rest, kinds⟩ := List.exists_cons_of_ne_nil printable.kinds
  exact readsAll_flatMap_of_reads c.costs reads_costSymbol (fun c => by simp [CostSymbol.spelled])
    (costSymbol_none (by simp [kinds]))

theorem card_spelled_eq (c : Card) :
    c.spelled ++ [.endOfInput] = .word ownName :: (c.costs.flatMap CostSymbol.spelled
      ++ (c.kinds.map (fun k => .word k.text) ++ afterKinds c)) := by
  simp [Card.spelled, afterKinds, body, closing]

theorem reads_card {c : Card} (printable : c.Printable) (clear : c.isClear) (ends : c.lineEnds) :
    card.reads (c.spelled ++ [.endOfInput]) = some (c.anonymous, [.endOfInput]) := by
  have noKind : kindWord.reads (afterKinds c) = none :=
    kindWord_none (by rw [startsKind_afterKinds printable, ends]; rfl)
  have kindsRead := reads_kindWords printable.kinds (afterKinds c)
  rw [readsAll_of_none noKind, List.append_nil] at kindsRead
  have peoples := reads_subtypes c.subtypes printable.abilities c.stats
  have sentences := readsAll_sentence printable.abilities clear c.stats
  have stop : finish.reads [.endOfInput] = some ((), [.endOfInput]) := rfl
  rw [card_spelled_eq]
  rw [afterKinds] at kindsRead ⊢
  simp [-reads_optional, card, reads_cardName, readsAll_costSymbol printable, kindsRead, peoples,
    sentences, reads_optional_stats, stop, Card.anonymous]

theorem kindWord_some {ks : List TokenKind} (h : startsKind (headKind ks)) :
    ∃ k, kindWord.reads ks = some (k, ks.tail) ∧ ks.tail.length < ks.length := by
  obtain _ | ⟨k, ks⟩ := ks
  · cases h
  · cases k with
    | word w =>
      obtain ⟨k, meaning⟩ := Option.isSome_iff_exists.1 h
      exact ⟨k, by simp [kindWord, meaning], Nat.lt_succ_self _⟩
    | number | mark | fault | endOfInput => cases h

theorem kinds_ne_of_reads_card {c own : Card} {rest : List TokenKind} (printable : c.Printable)
    (goesOn : c.lineEnds = false)
    (read : card.reads (c.spelled ++ [.endOfInput]) = some (own, rest)) : own.kinds ≠ c.kinds := by
  obtain ⟨k, more, shorter⟩ : ∃ k, kindWord.reads (afterKinds c) = some (k, (afterKinds c).tail) ∧
      (afterKinds c).tail.length < (afterKinds c).length :=
    kindWord_some (by rw [startsKind_afterKinds printable, goesOn]; rfl)
  have kindsRead := reads_kindWords printable.kinds (afterKinds c)
  rw [readsAll_of_some more shorter] at kindsRead
  rw [card_spelled_eq] at read
  simp only [card, reads_bind, reads_cardName, Option.bind_some, reads_many,
    readsAll_costSymbol printable, kindsRead, Option.bind_eq_some_iff, reads_pure,
    Option.some.injEq, Prod.mk.injEq] at read
  obtain ⟨peoples, -, printed, -, stop, -, same, -⟩ := read
  rw [← same]
  intro e
  have longer := congrArg List.length e
  simp only [List.length_append, List.length_cons] at longer
  omega

/-! ### The texts of cards -/

/-- The kinds of the tokens that the grammar reads in a text: those of its source, and the end. -/
def sourceKinds (text name : String) : List TokenKind :=
  Text.kindsOf (sourceOf text name) ++ [.endOfInput]

theorem firstFault?_eq_none_iff {tokens : List Text.Token} :
    firstFault? tokens = none ↔ ∀ k ∈ tokens.map Text.Token.kind, ∀ f, k ≠ .fault f := by
  simp only [firstFault?, List.findSome?_eq_none_iff, List.forall_mem_map]
  refine forall₂_congr fun t _ => ?_
  cases t.kind <;> simp

/-- What makes a text a card: it has a name, and its tokens hold no faults and are those of a
card. -/
theorem parse_eq_ok_iff {text : String} {c : Card} :
    parse text = .ok c ↔
      nameOf text.toList ≠ [] ∧
      (∀ k ∈ sourceKinds text (String.ofList (nameOf text.toList)), ∀ f, k ≠ .fault f) ∧
      ∃ own rest,
        card.reads (sourceKinds text (String.ofList (nameOf text.toList))) = some (own, rest) ∧
          c = { own with name := String.ofList (nameOf text.toList) } := by
  have kinds_eq := Text.map_kind_tokensFrom 0
    (sourceOf text (String.ofList (nameOf text.toList)))
  unfold parse
  simp only [List.isEmpty_iff]
  split
  · rename_i noName
    simp [noName]
  · rename_i name
    rw [sourceKinds, ← kinds_eq]
    split
    · rename_i f span fault
      refine ⟨fun h => (by cases h), fun h => ?_⟩
      rw [firstFault?_eq_none_iff.2 h.2.1] at fault
      cases fault
    · rename_i faultless
      rcases result : card ⟨0, Text.tokensFrom 0 (sourceOf text (String.ofList
        (nameOf text.toList)))⟩ .start with ⟨_ | ⟨own, next⟩, notes⟩
      · have nothing : card.reads (Cursor.kinds _) = none := reads_of_none (by rw [result])
        refine ⟨fun h => (by cases h), ?_⟩
        rintro ⟨-, -, own, rest, read, -⟩
        cases nothing.symm.trans read
      · have something : card.reads (Cursor.kinds _) = some (own, next.kinds) :=
          reads_of_some (by rw [result])
        simp only [Cursor.kinds] at something
        simp only [Except.ok.injEq, something, Option.some.injEq, Prod.mk.injEq]
        constructor
        · rintro rfl
          exact ⟨name, firstFault?_eq_none_iff.1 faultless, own, next.kinds, ⟨rfl, rfl⟩, rfl⟩
        · rintro ⟨-, -, own, rest, ⟨rfl, -⟩, rfl⟩
          rfl

end CardGame.Grammar
