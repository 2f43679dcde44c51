import CardGame.Proofs.CardReading
import CardGame.Proofs.Phrases

/-!
Soundness of the parsers. What a parser returns is the value of a derivation of exactly the tokens
it reads, whatever alternatives were tried before and taken back. There is one lemma for each
combinator and one for each production, and the card as a whole is derived from everything up to the
end of the input.
-/

namespace CardGame.Grammar

open CardGame.Grammar.Parser
open Text (Token TokenKind)

/-- A parser that returns only values of derivations of the tokens that it reads. -/
structure Derives {α : Type} (p : Parser α) (D : Phrases α) : Prop where
  split : ∀ {ks a rest}, p.reads ks = some (a, rest) → ∃ read, ks = read ++ rest ∧ D read a

namespace Derives

variable {α β : Type} {p q : Parser α} {f : α → Parser β} {D D' : Phrases α} {E : Phrases β}

theorem imp (h : Derives p D) (weaker : ∀ ks a, D ks a → D' ks a) : Derives p D' := by
  refine ⟨fun read => ?_⟩
  obtain ⟨own, split, derived⟩ := h.split read
  exact ⟨own, split, weaker _ _ derived⟩

/-! ### Sequences and choices -/

theorem pure {a : α} (h : D [] a) : Derives (Pure.pure a) D := by
  refine ⟨fun read => ?_⟩
  obtain ⟨rfl, rfl⟩ := parts_of_pure read
  exact ⟨[], rfl, h⟩

theorem bind [p.Uniform] [∀ a, (f a).Uniform] (first : Derives p D)
    (next : ∀ a ks, D ks a → Derives (f a) fun more b => E (ks ++ more) b) :
    Derives (p >>= f) E := by
  refine ⟨fun read => ?_⟩
  obtain ⟨a, middle, own, later⟩ := parts_of_bind read
  obtain ⟨ks, rfl, derived⟩ := first.split own
  obtain ⟨more, rfl, whole⟩ := (next a ks derived).split later
  exact ⟨ks ++ more, (List.append_assoc ..).symm, whole⟩

theorem last {g : α → β} [p.Uniform] (h : Derives p D) (whole : ∀ a ks, D ks a → E ks (g a)) :
    Derives (p >>= fun a => Pure.pure (g a)) E :=
  .bind h fun a ks derived => .pure (by rw [List.append_nil]; exact whole a ks derived)

theorem skip {own : List TokenKind} {r : Parser Unit} {q : Parser β} [r.Uniform] [q.Uniform]
    (first : Derives r fun ks _ => ks = own) (next : Derives q fun more b => E (own ++ more) b) :
    Derives (r >>= fun _ => q) E :=
  .bind first fun _ _ same => same ▸ next

theorem orElse [p.Uniform] [q.Uniform] (first : Derives p D) (second : Derives q D) :
    Derives (p <|> q) D := by
  refine ⟨fun read => ?_⟩
  rw [reads_orElse] at read
  exact (Option.or_eq_some_iff.1 read).elim first.split fun h => second.split h.2

theorem maybe [p.Uniform] (h : Derives p D) : Derives (optional p) (Maybe D) :=
  .orElse (.bind h fun _ _ derived => .pure (by rw [List.append_nil]; exact .present derived))
    (.pure .absent)

theorem flag {r : Parser Unit} [r.Uniform] {D : Phrases Unit} (h : Derives r D) :
    Derives (flag r) fun ks up => if up then D ks () else ks = [] :=
  .orElse (.bind h fun _ ks derived => .pure (by rw [List.append_nil]; exact derived)) (.pure rfl)

/-! ### Tokens -/

theorem token {es : List Expectation} {accept : TokenKind → Option α}
    (stops : accept .endOfInput = none) :
    Derives (token es accept) fun ks a => ∃ k, ks = [k] ∧ accept k = some a := by
  refine ⟨fun {ks a rest} read => ?_⟩
  rw [reads_token] at read
  obtain ⟨b, accepted, same⟩ := Option.map_eq_some_iff.1 read
  obtain ⟨rfl, rfl⟩ := Prod.mk.inj same
  cases ks with
  | nil => exact nomatch stops.symm.trans accepted
  | cons k ks => exact ⟨[k], rfl, k, rfl, accepted⟩

theorem word (w : String) : Derives (word w) fun ks _ => ks = said [w] := by
  refine (token (by simp)).imp fun ks _ ⟨k, same, accepted⟩ => ?_
  split at accepted
  · rename_i own; rw [same, own]; rfl
  · cases accepted

theorem mark (c : Char) : Derives (mark c) fun ks _ => ks = [.mark c] := by
  refine (token (by simp)).imp fun ks _ ⟨k, same, accepted⟩ => ?_
  split at accepted
  · rename_i own; rw [same, own]
  · cases accepted

theorem oneOf (ws : List String) : Derives (oneOf ws) fun ks _ => ∃ w ∈ ws, ks = said [w] := by
  refine (token rfl).imp fun ks _ ⟨k, same, accepted⟩ => ?_
  cases k with
  | word w =>
    simp only at accepted
    split at accepted
    · rename_i listed; exact ⟨w, listed, same⟩
    · cases accepted
  | number | mark | fault | endOfInput => cases accepted

theorem optionally (ws : List String) :
    Derives (optional (Parser.oneOf ws)) fun ks _ => Optionally ws ks :=
  (oneOf ws).maybe.imp fun _ _ derived => by
    cases derived with
    | absent => exact .absent
    | present own => obtain ⟨w, listed, rfl⟩ := own; exact .present listed

theorem wordAs (what : String) {meaning : String → Option α} {spelling : α → String}
    (spelled : ∀ {w a}, meaning w = some a → spelling a = w) :
    Derives (wordAs what meaning) (WordFor spelling) := by
  refine (token rfl).imp fun ks a ⟨k, same, accepted⟩ => ?_
  cases k with
  | word w => rw [same, ← spelled accepted]; exact .mk a
  | number | mark | fault | endOfInput => cases accepted

theorem words (ws : List String) : Derives (words ws) fun ks _ => ks = said ws := by
  induction ws with
  | nil => exact .pure rfl
  | cons w ws ih =>
    rw [words_cons]
    exact .skip (word w) (ih.imp fun _ _ same => by rw [same]; rfl)

theorem flagged {r : Parser Unit} [r.Uniform] {ws : List String}
    (h : Derives r fun ks _ => ks = said ws) : Derives (Parser.flag r) (Flagged ws) :=
  (flag h).imp fun ks up own => by
    cases up with
    | false => obtain rfl : ks = [] := own; exact .absent
    | true => obtain rfl : ks = said ws := own; exact .present

/-! ### Repetitions -/

theorem readsAll [p.Uniform] (h : Derives p D) (ks : List TokenKind) :
    ∃ read, ks = read ++ (p.readsAll ks).2 ∧ Repeated D read (p.readsAll ks).1 := by
  fun_induction p.readsAll ks with
  | case1 ks a rest own shorter ih =>
    obtain ⟨first, split, derived⟩ := h.split own
    obtain ⟨more, moreSplit, others⟩ := ih
    exact ⟨first ++ more, by rw [List.append_assoc, ← moreSplit, split], .cons derived others⟩
  | case2 => exact ⟨[], rfl, .nil⟩
  | case3 => exact ⟨[], rfl, .nil⟩

theorem many [p.Uniform] (h : Derives p D) : Derives (many p) (Repeated D) := by
  refine ⟨fun {ks as rest} read => ?_⟩
  rw [reads_many] at read
  obtain ⟨own, split, derived⟩ := h.readsAll ks
  rw [Option.some.inj read] at split derived
  exact ⟨own, split, derived⟩

theorem many1 [p.Uniform] (h : Derives p D) : Derives (many1 p) (Series D) :=
  .bind h fun _ _ first => .last h.many fun _ _ others => .mk first others

theorem enumeration [p.Uniform] (conjunctions : List String) (h : Derives p D) :
    Derives (enumeration conjunctions p) (Enumerated conjunctions D) := by
  have afterComma : Derives (do Parser.mark ','; p) (AfterComma D) :=
    .skip (mark ',') (h.imp fun _ _ own => .mk own)
  refine .bind h fun a ks first => ?_
  -- the further items are a production of their own only together with the first
  have further : Derives (furtherItems conjunctions p) fun more others =>
      Enumerated conjunctions D (ks ++ more) (a :: others) :=
    .bind afterComma.many fun _ _ middle => .bind (oneOf conjunctions) fun _ _ ⟨_, listed, same⟩ =>
      same ▸ .last h fun _ _ final => .several first middle listed final
  refine .last further.maybe fun others more own => ?_
  cases own with
  | absent => rw [List.append_nil]; exact .one first
  | present whole => exact whole

theorem sequenceOf [p.Uniform] (h : Derives p D) : Derives (sequenceOf p) (Joined D) := by
  have continued : Derives (do continuation; p) (Continued D) :=
    .bind (D := fun ks _ => ∃ link, Optionally ["then", "and"] link ∧ ks = [.mark ','] ++ link)
      (.skip (mark ',') (.last (optionally _) fun _ link own => ⟨link, own, rfl⟩))
      fun _ _ ⟨_, own, same⟩ => same ▸ h.imp fun _ _ derived => .mk own derived
  exact .bind h fun _ _ first => .last continued.many fun _ _ others => .mk first others

theorem consuming [p.Uniform] (what : String) (h : Derives p D) :
    Derives (consuming what p) fun ks a => D ks a ∧ ks ≠ [] := by
  refine ⟨fun read => ?_⟩
  obtain ⟨own, moved⟩ := parts_of_consuming read
  obtain ⟨ks, rfl, derived⟩ := h.split own
  exact ⟨ks, rfl, derived, by rintro rfl; exact moved rfl⟩

end Derives

/-! ### Numbers, costs and traits -/

theorem derives_quantity : Derives quantity Quantity.Phrase := by
  refine (Derives.token rfl).imp fun ks q ⟨k, same, accepted⟩ => ?_
  rw [same]
  cases k with
  | number n => cases accepted; exact .int n
  | word w =>
    simp only at accepted
    split at accepted
    · rename_i article
      cases accepted
      obtain rfl | rfl := article
      · exact .a
      · exact .an
    · split at accepted
      · rename_i own; subst own; cases accepted; exact .x
      · cases accepted
  | mark | fault | endOfInput => cases accepted

theorem derives_stats : Derives stats Stats.Phrase :=
  .bind derives_quantity fun _ _ power => .skip (.mark '/') <|
    .last derives_quantity fun _ _ health => .mk power health

theorem spelled_of_find {α : Type} {all : List α} {spelling : α → String} {w : String} {a : α}
    (found : all.find? (spelling · == w) = some a) : spelling a = w :=
  eq_of_beq (by simpa using List.find?_some found)

theorem derives_color : Derives color (WordFor Color.word) :=
  .wordAs _ spelled_of_find

theorem derives_kindWord : Derives kindWord (WordFor KindWord.text) :=
  .wordAs _ spelled_of_find

theorem derives_subtype : Derives subtype (WordFor CardSubtype.word) :=
  .wordAs _ spelled_of_find

theorem derives_keyword : Derives keyword (WordFor Keyword.word) :=
  .wordAs _ spelled_of_find

theorem derives_stat : Derives stat (WordFor Stat.word) :=
  .wordAs _ fun {w a} known => by
    split at known <;> cases known <;> rfl

theorem derives_direction : Derives direction (WordFor Direction.word) :=
  .wordAs _ fun {w a} known => by
    split at known <;> cases known <;> rfl

theorem derives_costSymbol : Derives costSymbol CostSymbol.Phrase := by
  refine .skip (.mark '\x7b') (.bind (D := CostSymbol.InnerPhrase) ?inner fun _ _ own =>
    .skip (.mark '\x7d') (.pure (.mk own)))
  refine .orElse ?_ (.orElse ?_ (.orElse ?_ ?_))
  · exact .last (.wordAs _ spelled_of_find) fun _ _ ⟨e⟩ => .essence e
  · exact .last (.word "q") fun _ _ same => same ▸ .activate
  · exact .last (.word "t") fun _ _ same => same ▸ .deactivate
  · exact .last derives_quantity fun _ _ own => .generic own

theorem derives_non : Derives non fun ks _ => ks = [.word "non", .mark '-'] :=
  .skip (.word "non") ((Derives.mark '-').imp fun _ _ same => same ▸ rfl)

theorem derives_trait : Derives trait Trait.Phrase := by
  refine .orElse ?_ (.orElse ?_ (.orElse ?_ (.orElse ?_ (.orElse ?_ (.orElse ?_ ?_)))))
  · exact .last derives_color fun _ _ ⟨c⟩ => .color c
  · exact .skip derives_non (.last derives_color fun _ _ ⟨c⟩ => .nonColor c)
  · exact .last derives_kindWord fun _ _ ⟨k⟩ => .kind k
  · exact .skip derives_non (.last derives_kindWord fun _ _ ⟨k⟩ => .nonKind k)
  · exact .last (.word "activated") fun _ _ same => same ▸ .activated
  · exact .last (.word "deactivated") fun _ _ same => same ▸ .deactivated
  · exact .last derives_stats fun _ _ own => .stats own

/-! ### Matches -/

theorem derives_possessive : Derives possessive fun ks _ => ks = [.mark '\'', .word "s"] :=
  .skip (.mark '\'') ((Derives.word "s").imp fun _ _ same => same ▸ rfl)

theorem derives_leading : Derives leading Direction.LeadPhrase :=
  .bind derives_direction fun _ _ ⟨d⟩ => .last (.oneOf _) fun _ _ ⟨_, listed, same⟩ =>
    same ▸ .mk d listed

theorem derives_trailing : Derives trailing Direction.TrailPhrase :=
  .skip (.word "or") (derives_direction.imp fun _ _ ⟨d⟩ => .mk d)

theorem derives_selector : Derives selector Selector.Phrase :=
  .orElse (.last (.words _) fun _ _ same => same ▸ .sacrificed)
    (.last (.word "target") fun _ _ same => same ▸ .target)

theorem derives_lacking : Derives lacking Keyword.LackingPhrase :=
  .skip (.word "without") (derives_keyword.imp fun _ _ ⟨k⟩ => .mk k)

section Inner

variable {inner : Parser CardMatch} [inner.Uniform] {M : Phrases CardMatch}
  (derives : Derives inner M)

include derives

theorem derives_count : Derives (count inner) (Count.Phrase M) := by
  refine .orElse ?_ (.orElse ?_ ?_)
  · exact .skip (.words _) (.last derives fun _ _ own => .numberOf own)
  · exact .bind derives fun _ _ owner => .skip derives_possessive <|
      .last derives_stat fun _ _ ⟨s⟩ => .attribute s owner
  · exact .last derives_quantity fun _ _ own => .value own

theorem derives_comparison : Derives (comparison inner) (Comparison.Phrase M) :=
  .bind derives_leading.maybe fun _ _ lead => .bind (derives_count derives) fun _ _ n =>
    .last derives_trailing.maybe fun _ _ trail => .mk lead n trail

theorem derives_having : Derives (having inner) (Having.Phrase M) := by
  refine .skip (.word "with") (.orElse ?_ ?_)
  · exact .last (derives_keyword.enumeration _) fun _ _ own => .keywords own
  · exact .bind derives_stat fun _ _ ⟨s⟩ => .last (derives_comparison derives) fun _ _ own =>
      .comparison s own

theorem derives_targetingClause :
    Derives (targetingClause inner) (CardMatch.TargetingPhrase M) :=
  .skip (.words _) (derives.imp fun _ _ own => .mk own)

theorem derives_description : Derives (description inner) (CardFilter.Phrase M) :=
  .bind derives_selector.maybe fun _ _ chosen => .bind derives_trait.many fun _ _ traits =>
    .bind (.optionally _) fun _ _ noun => .bind derives_lacking.maybe fun _ _ without =>
      .bind (derives_having derives).maybe fun _ _ having =>
        .last (derives_targetingClause derives).many fun _ _ targeting =>
          .mk chosen traits noun without having targeting

theorem derives_alternative : Derives (alternative inner) (Alternative.Phrase M) := by
  refine .orElse ?_ (.orElse ?_ ?_)
  · exact .last (.word ownName) fun _ _ same => same ▸ .named
  · exact .last (.oneOf _) fun _ _ ⟨_, listed, same⟩ => same ▸ .this listed
  · refine .last (D := fun ks f => Alternative.Phrase M ks (.filter f)) ?_ fun _ _ own => own
    exact .bind (.optionally _) fun _ _ article =>
      (Derives.consuming _ (derives_description derives)).imp fun _ _ ⟨own, held⟩ =>
        .filter article own held

end Inner

theorem derives_cardMatchWithin (room : Nat) :
    Derives (cardMatchWithin room) CardMatch.Phrase := by
  induction room with
  | zero => exact ⟨fun read => by cases read⟩
  | succ room ih => exact ((derives_alternative ih).enumeration _).imp fun _ _ own => .mk own

theorem derives_cardMatch : Derives cardMatch CardMatch.Phrase :=
  derives_cardMatchWithin maxMatchDepth

theorem derives_playerAlternative : Derives playerAlternative PlayerAlternative.Phrase := by
  refine .orElse ?_ (.orElse ?_ (.orElse ?_ ?_))
  · exact .last (.words _) fun _ _ same => same ▸ .each
  · exact .last (.word _) fun _ _ same => same ▸ .you
  · exact .last (.words _) fun _ _ same => same ▸ .opponent
  · exact .last (.words _) fun _ _ same => same ▸ .controller

theorem derives_playerMatch : Derives playerMatch PlayerMatch.Phrase :=
  derives_playerAlternative.enumeration _

theorem derives_anyMatch : Derives anyMatch AnyMatch.Phrase := by
  refine .orElse ?_ (.orElse ?_ ?_)
  · exact .last derives_playerMatch fun _ _ own => .player own
  · exact .last derives_cardMatch fun _ _ own => .card own
  · exact .last (.words _) fun _ _ same => same ▸ .anyTarget

theorem derives_zone : Derives zone Zone.Phrase := by
  have named : Derives (wordAs "zone" Zone.ofWord?) (WordFor Zone.word) := .wordAs _ spelled_of_find
  exact .bind (.optionally _) fun _ _ article => named.imp fun _ _ ⟨z⟩ => .mk z article

theorem derives_zoneMatch : Derives zoneMatch ZoneMatch.Phrase :=
  derives_zone.many1

/-! ### Triggers -/

theorem derives_itsTurn (negated : Bool) : Derives (itsTurn negated) fun ks _ =>
    ks = said ["it"] ++ ([.mark '\'', .word "s"] ++
      said ((if negated then ["not"] else []) ++ ["your", "turn"])) := by
  refine .skip (.word "it") (.skip derives_possessive ?_)
  cases negated with
  | false => exact (Derives.words ["your", "turn"]).imp fun _ _ same => same ▸ rfl
  | true =>
    exact .skip (.word "not") ((Derives.words ["your", "turn"]).imp fun _ _ same => same ▸ rfl)

theorem derives_playerAction : Derives playerAction PlayerAction.Phrase := by
  refine .bind (Derives.flag (.oneOf _)) fun sacrifices ks verb => ?_
  cases sacrifices with
  | true =>
    obtain ⟨v, listed, rfl⟩ : ∃ v ∈ ["sacrifice", "sacrifices"], ks = said [v] := verb
    exact .last derives_cardMatch fun _ _ own => .sacrifice listed own
  | false =>
    obtain rfl : ks = [] := verb
    exact .bind (.oneOf _) fun _ _ ⟨_, listed, same⟩ => .last (.words _) fun _ _ object =>
      same ▸ object ▸ .draw listed

theorem derives_cardAction : Derives cardAction CardAction.Phrase := by
  refine .bind (Derives.flag (.oneOf _)) fun passive ks verb => ?_
  cases passive with
  | true =>
    obtain ⟨v, listed, rfl⟩ : ∃ v ∈ ["is", "are"], ks = said [v] := verb
    exact .last (.words _) fun _ _ same => same ▸ .enters listed
  | false =>
    obtain rfl : ks = [] := verb
    exact .bind (.oneOf _) fun _ _ ⟨_, listed, same⟩ => .last (.words _) fun _ _ object =>
      same ▸ object ▸ .leaves listed

theorem derives_condition : Derives condition Condition.Phrase := by
  refine .orElse ?_ (.orElse ?_ (.orElse ?_ (.orElse ?_ ?_)))
  · exact .last (derives_itsTurn false) fun _ _ same => same ▸ .yourTurn
  · exact .last (derives_itsTurn true) fun _ _ same => same ▸ .notYourTurn
  · exact .bind derives_playerMatch fun _ _ who => .last derives_playerAction fun _ _ action =>
      .player who action
  · exact .bind derives_cardMatch fun _ _ which => .last derives_cardAction fun _ _ action =>
      .card which action
  · exact .bind derives_stat fun _ _ ⟨s⟩ => .skip (.word "is") <|
      .last (derives_comparison derives_cardMatch) fun _ _ own => .numerical s own

theorem derives_lifeChange (verbs : List String) : Derives (lifeChange verbs) fun ks m =>
    ∃ own v, PlayerMatch.Phrase own m ∧ v ∈ verbs ∧ ks = own ++ said [v, "life"] :=
  .bind derives_playerMatch fun _ own players => .bind (.oneOf _) fun _ _ ⟨v, listed, same⟩ =>
    .skip (.word "life") (.pure ⟨own, v, players, listed, by rw [same]; rfl⟩)

theorem derives_trigger : Derives trigger Trigger.Phrase := by
  refine .bind (.oneOf _) fun _ _ ⟨_, listed, same⟩ => same ▸
    Derives.imp (D := Trigger.BodyPhrase) ?_ fun _ _ own => .mk listed own
  refine .orElse ?_ (.orElse ?_ (.orElse ?_ (.orElse ?_ ?_)))
  · exact .last (.skip (.words _) (derives_cardMatch.imp fun _ _ own => .play own)) fun _ _ => id
  · exact .last (derives_lifeChange _) fun _ _ ⟨_, _, own, verb, same⟩ => same ▸ .gainLife own verb
  · exact .last (derives_lifeChange _) fun _ _ ⟨_, _, own, verb, same⟩ => same ▸ .loseLife own verb
  · refine .last (D := fun ks m => Trigger.BodyPhrase ks (.dealtDamage m)) ?_ fun _ _ own => own
    exact .bind derives_cardMatch fun _ _ own => .last (.words _) fun _ _ same =>
      same ▸ .dealtDamage own
  · exact .last derives_condition fun _ _ own => .condition own

/-! ### Effects -/

theorem derives_draw : Derives draw PlayerEffect.Phrase :=
  .bind (.oneOf ["draw", "draws"]) fun _ _ ⟨_, verb, same⟩ => same ▸
    .bind derives_quantity fun _ _ n => .last (.oneOf _) fun _ _ ⟨_, noun, same⟩ =>
      same ▸ .draw verb n noun

theorem derives_tokenKind : Derives tokenKind KindWord.CreatedPhrase := by
  refine .bind derives_kindWord fun _ _ ⟨k⟩ => ?_
  by_cases closing : k.kind = .token
  · simp only [closing, if_true]
    exact ⟨fun read => by simp at read⟩
  · simp only [closing, if_false]
    exact .pure (.mk closing)

theorem derives_createToken : Derives createToken PlayerEffect.Phrase :=
  .bind (.oneOf ["create", "creates"]) fun _ _ ⟨_, verb, same⟩ => same ▸
    .bind derives_quantity fun _ _ n => .bind derives_stats.maybe fun _ _ printed =>
      .bind derives_tokenKind.many fun _ _ kinds => .bind derives_subtype.many fun _ _ peoples =>
        .last (.oneOf _) fun _ _ ⟨_, noun, same⟩ => same ▸ .token verb n printed kinds peoples noun

theorem derives_lifeAmount (verbs : List String) : Derives (lifeAmount (oneOf verbs)) fun ks n =>
    ∃ v own, v ∈ verbs ∧ Quantity.Phrase own n ∧ ks = said [v] ++ (own ++ said ["life"]) :=
  .bind (.oneOf verbs) fun _ _ ⟨v, verb, same⟩ => .bind derives_quantity fun _ own n =>
    .skip (.word "life") (.pure ⟨v, own, verb, n, by rw [same]; rfl⟩)

theorem derives_discard : Derives discard PlayerEffect.Phrase :=
  .bind (.oneOf ["discard", "discards"]) fun _ _ ⟨_, verb, same⟩ => same ▸
    .bind derives_quantity fun _ _ n => .last derives_cardMatch.maybe fun _ _ filter =>
      .discard verb n filter

theorem derives_shuffled : Derives shuffled CardMatch.IntoPhrase :=
  .bind derives_cardMatch fun _ _ own => .skip (.word "into") (.pure (.mk own))

theorem derives_shuffle : Derives shuffle PlayerEffect.Phrase :=
  .bind (.oneOf ["shuffle", "shuffles"]) fun _ _ ⟨_, verb, same⟩ => same ▸
    .bind derives_shuffled.maybe fun _ _ objects => .last derives_zoneMatch fun _ _ zone =>
      .shuffle verb objects zone

theorem derives_extraTurn : Derives extraTurn PlayerEffect.Phrase :=
  .bind (.oneOf ["take", "takes"]) fun _ _ ⟨_, verb, same⟩ => same ▸
    .bind derives_quantity fun _ _ n => .skip (.word "extra") <|
      .last (.oneOf _) fun _ _ ⟨_, noun, same⟩ => same ▸ .extraTurn verb n noun

theorem derives_look : Derives look PlayerEffect.Phrase :=
  .bind (.oneOf ["look", "looks"]) fun _ _ ⟨_, verb, same⟩ => same ▸
    .skip (.words ["at", "the", "top"]) (.bind derives_quantity fun _ _ n =>
      .bind (.oneOf ["card", "cards"]) fun _ _ ⟨_, noun, same⟩ => same ▸
        .skip (.word "of") (.last derives_zoneMatch fun _ _ zone => .look verb n noun zone))

theorem derives_putPosition : Derives putPosition PutPosition.Phrase := by
  refine .orElse ?_ (.orElse ?_ ?_)
  · exact .last (.words _) fun _ _ same => same ▸ .top
  · exact .last (.words _) fun _ _ same => same ▸ .bottom
  · exact .last (.word _) fun _ _ same => same ▸ .into

theorem derives_put : Derives put PlayerEffect.Phrase :=
  .bind (.oneOf ["put", "puts"]) fun _ _ ⟨_, verb, same⟩ => same ▸
    .bind derives_cardMatch fun _ _ objects => .bind derives_putPosition fun _ _ position =>
      .bind derives_zoneMatch fun _ _ zone => .bind (.flagged (.words _)) fun _ _ anyOrder =>
        .bind (.flagged (.words _)) fun _ _ randomOrder =>
          .last (.flagged (.word _)) fun _ _ deactivated =>
            .put verb objects position zone anyOrder randomOrder deactivated

theorem derives_objectsOf (w : String) : Derives (objectsOf w) fun ks m =>
    ∃ v own, v ∈ [w, w ++ "s"] ∧ CardMatch.Phrase own m ∧ ks = said [v] ++ own :=
  .bind (.oneOf _) fun _ _ ⟨v, verb, same⟩ => derives_cardMatch.imp fun own _ objects =>
    ⟨v, own, verb, objects, by rw [same]⟩

theorem derives_symbolsOf (w : String) : Derives (symbolsOf w) fun ks symbols =>
    ∃ v own, v ∈ [w, w ++ "s"] ∧ Series CostSymbol.Phrase own symbols ∧ ks = said [v] ++ own :=
  .bind (.oneOf _) fun _ _ ⟨v, verb, same⟩ => derives_costSymbol.many1.imp fun own _ symbols =>
    ⟨v, own, verb, symbols, by rw [same]⟩

theorem derives_playerEffect : Derives playerEffect PlayerEffect.Phrase := by
  refine .orElse derives_draw (.orElse derives_createToken (.orElse ?destroy (.orElse ?add
    (.orElse ?gain (.orElse ?lose (.orElse derives_discard (.orElse derives_shuffle
    (.orElse derives_extraTurn (.orElse derives_look (.orElse derives_put (.orElse ?activate
    (.orElse ?deactivate (.orElse ?sacrifice (.orElse ?payEssence ?payLife))))))))))))))
  case destroy =>
    exact .last (derives_objectsOf _) fun _ _ ⟨_, _, verb, own, same⟩ => same ▸ .destroy verb own
  case add =>
    exact .last (derives_symbolsOf _) fun _ _ ⟨_, _, verb, own, same⟩ => same ▸ .add verb own
  case gain =>
    exact .last (derives_lifeAmount _) fun _ _ ⟨_, _, verb, own, same⟩ => same ▸ .gainLife verb own
  case lose =>
    exact .last (derives_lifeAmount _) fun _ _ ⟨_, _, verb, own, same⟩ => same ▸ .loseLife verb own
  case activate =>
    exact .last (derives_objectsOf _) fun _ _ ⟨_, _, verb, own, same⟩ => same ▸ .activate verb own
  case deactivate =>
    exact .last (derives_objectsOf _) fun _ _ ⟨_, _, verb, own, same⟩ => same ▸ .deactivate verb own
  case sacrifice =>
    exact .last (derives_objectsOf _) fun _ _ ⟨_, _, verb, own, same⟩ => same ▸ .sacrifice verb own
  case payEssence =>
    exact .last (derives_symbolsOf _) fun _ _ ⟨_, _, verb, own, same⟩ => same ▸ .payEssence verb own
  case payLife =>
    exact .last (derives_lifeAmount _) fun _ _ ⟨_, _, verb, own, same⟩ => same ▸ .payLife verb own

theorem derives_sign : Derives sign Sign.Phrase :=
  .orElse (.last (.mark '+') fun _ _ same => same ▸ .plus)
    (.last (.mark '-') fun _ _ same => same ▸ .minus)

theorem derives_cardEffect : Derives cardEffect CardEffect.Phrase := by
  refine .orElse ?damage ?bonus
  case damage =>
    exact .bind (.oneOf ["deal", "deals"]) fun _ _ ⟨_, verb, same⟩ => same ▸
      .bind derives_quantity fun _ _ n => .skip (.words _) <|
        .last derives_anyMatch fun _ _ own => .damage verb n own
  case bonus =>
    exact .bind (.oneOf ["get", "gets"]) fun _ _ ⟨_, verb, same⟩ => same ▸
      .bind derives_sign fun _ _ powerSign => .bind derives_quantity fun _ _ power =>
        .skip (.mark '/') (.bind derives_sign fun _ _ healthSign =>
          .last derives_quantity fun _ _ health => .gets verb powerSign power healthSign health)

theorem derives_actingPlayers : Derives actingPlayers fun ks who =>
    ∃ own may, PlayerMatch.Phrase own who.1 ∧ Flagged ["may"] may who.2 ∧ ks = own ++ may :=
  .bind derives_playerMatch fun _ own players => .last (.flagged (.word _)) fun _ may flagged =>
    ⟨own, may, players, flagged, rfl⟩

theorem derives_playerClause : Derives playerClause Effect.Phrase := by
  refine .bind derives_actingPlayers.maybe fun who ks subject =>
    .last (.sequenceOf derives_playerEffect) fun effects more own => ?_
  cases subject with
  | absent => exact .unnamed own
  | present named =>
    obtain ⟨players, may, read, flagged, rfl⟩ := named
    rw [List.append_assoc]
    exact .player read flagged own

theorem derives_effect : Derives effect Effect.Phrase :=
  .orElse derives_playerClause <| .bind derives_cardMatch.maybe fun _ _ subject =>
    .last (.sequenceOf derives_cardEffect) fun _ _ own => .card subject own

theorem derives_composed : Derives composed Composed.Phrase :=
  .bind (.sequenceOf derives_effect) fun _ _ own => .skip (.mark '.') (.pure (.mk own))

/-! ### Abilities and cards -/

theorem derives_abilityCost : Derives abilityCost AbilityCost.Phrase :=
  .orElse (.last derives_costSymbol fun _ _ own => .symbol own)
    (.last derives_effect fun _ _ own => .effect own)

theorem derives_activated : Derives activated Activated.Phrase :=
  .bind derives_abilityCost.many1 fun _ _ costs => .skip (.mark ':') <|
    .last derives_composed fun _ _ bought => .mk costs bought

theorem derives_triggered : Derives triggered Triggered.Phrase :=
  .bind derives_trigger fun _ _ cause => .skip (.mark ',') <|
    .last derives_composed fun _ _ caused => .mk cause caused

theorem derives_ability : Derives ability Ability.Phrase := by
  refine .orElse ?_ (.orElse ?_ (.orElse ?_ ?_))
  · exact .last derives_keyword fun _ _ ⟨k⟩ => .keyword k
  · exact .last derives_composed fun _ _ own => .composed own
  · exact .last derives_activated fun _ _ own => .activated own
  · exact .last derives_triggered fun _ _ own => .triggered own

theorem derives_sentence : Derives sentence (Punctuated Ability.Phrase) := by
  refine .bind derives_ability fun _ ks own =>
    .last (Derives.mark ',').maybe fun _ _ punctuated => ?_
  cases punctuated with
  | absent => rw [List.append_nil]; exact .plain own
  | present same => exact same ▸ .comma own

theorem derives_subtypes : Derives subtypes CardSubtype.ListPhrase := by
  refine .bind (Derives.flag (.mark '-')) fun dashed ks read => ?_
  cases dashed with
  | true =>
    obtain rfl : ks = [.mark '-'] := read
    exact derives_subtype.many.imp fun _ _ own => .dash own
  | false =>
    obtain rfl : ks = [] := read
    exact .pure .absent

theorem derives_cardName : Derives cardName fun ks name => ks = said [name] := by
  refine (Derives.token rfl).imp fun ks name ⟨k, same, accepted⟩ => ?_
  cases k with
  | word w => cases accepted; exact same
  | number | mark | fault | endOfInput => cases accepted

theorem derives_finish : Derives finish fun ks _ => ks = [] := by
  refine ⟨fun {ks _ rest} read => ?_⟩
  rw [reads_finish] at read
  split at read
  · cases read; exact ⟨[], rfl, rfl⟩
  · cases read

theorem derives_card : Derives card fun ks c => Card.Phrase (ks ++ [.endOfInput]) c :=
  .bind derives_cardName fun _ _ named => .bind derives_costSymbol.many fun _ _ costs =>
    .bind derives_kindWord.many1 fun _ _ kinds => .bind derives_subtypes fun _ _ peoples =>
      .bind derives_sentence.many fun _ _ abilities => .bind derives_stats.maybe fun _ _ printed =>
        .skip derives_finish <| .pure <| by
          simpa only [named, List.append_assoc, List.append_nil] using
            Card.Phrase.mk costs kinds peoples abilities printed

theorem headKind_of_reads_card {ks rest : List TokenKind} {c : Card}
    (read : card.reads ks = some (c, rest)) : headKind rest = .endOfInput := by
  simp only [card, reads_bind, Option.bind_eq_some_iff, reads_pure, reads_finish] at read
  obtain ⟨_, _, _, _, _, _, _, _, _, _, _, _, _, stop, same⟩ := read
  split at stop
  · cases stop; cases same; assumption
  · cases stop

theorem phrase_of_reads_card {ks rest : List TokenKind} {c : Card}
    (read : card.reads ks = some (c, rest)) :
    Card.Phrase (ks.takeWhile (· ≠ .endOfInput) ++ [.endOfInput]) c ∧
      rest = ks.dropWhile (· ≠ .endOfInput) := by
  obtain ⟨own, split, content⟩ := reads_between read
  obtain ⟨own', split', phrase⟩ := derives_card.split read
  obtain rfl := List.append_cancel_right (split.symm.trans split')
  have inside : ∀ k ∈ own, decide (k ≠ .endOfInput) = true := fun k mem =>
    decide_eq_true (content k mem).1
  have stops : rest.takeWhile (· ≠ .endOfInput) = [] ∧ rest.dropWhile (· ≠ .endOfInput) = rest := by
    have closing := headKind_of_reads_card read
    cases rest with
    | nil => exact ⟨rfl, rfl⟩
    | cons k rest => obtain rfl : k = .endOfInput := closing; exact ⟨rfl, rfl⟩
  rw [split, List.takeWhile_append_of_pos inside, List.dropWhile_append_of_pos inside, stops.1,
    stops.2, List.append_nil]
  exact ⟨phrase, rfl⟩

theorem takeWhile_sourceKinds (text name : String) :
    (sourceKinds text name).takeWhile (· ≠ .endOfInput) = Text.kindsOf (sourceOf text name) := by
  have inside : ∀ k ∈ Text.kindsOf (sourceOf text name), decide (k ≠ .endOfInput) = true := by
    intro k mem
    exact decide_eq_true fun e => Text.endOfInput_notMem_scan _ _ (e ▸ mem)
  rw [sourceKinds, List.takeWhile_append_of_pos inside]
  exact List.append_nil _

theorem phrase_of_parse {text : String} {c : Card} (parsed : parse text = .ok c) :
    ∃ word, Card.Phrase (sourceKinds text c.name) { c with name := word } := by
  obtain ⟨-, -, own, rest, read, rfl⟩ := parse_eq_ok_iff.1 parsed
  have phrase := (phrase_of_reads_card read).1
  rw [takeWhile_sourceKinds] at phrase
  exact ⟨own.name, phrase⟩

/-- A card that is read from tokens is the value of a derivation of all of them up to the end of the
input, and that end is where the parser stops. -/
theorem phrase_of_card {cursor next : Cursor} {notes : Notes} {c : Card}
    (read : (card cursor notes).1 = some (c, next)) :
    Card.Phrase (cursor.kinds.takeWhile (· ≠ .endOfInput) ++ [.endOfInput]) c ∧
      next.kinds = cursor.kinds.dropWhile (· ≠ .endOfInput) :=
  phrase_of_reads_card (reads_of_some read)

def elvenSpark : Card where
  name := ownName
  costs := [.essence .sword]
  kinds := [⟨.spell, false⟩]
  subtypes := [.elf]
  abilities := [.composed ⟨[.card (some [.named])
    [.damage .x (.card [.filter ⟨some .target, [.kind ⟨.unit, false⟩], none, none, []⟩])]]⟩]
  stats := some ⟨.number 1, .number 2⟩

def elvenSparkTokens : Cursor :=
  ⟨0, Text.tokens "NAME \x7bs\x7d spell - elf NAME deals x damage to target unit. 1/2"⟩

theorem phrase_of_card_elvenSpark :
    ∃ next, (card elvenSparkTokens .start).1 = some (elvenSpark, next) ∧
      Card.Phrase elvenSparkTokens.kinds elvenSpark ∧ next.kinds = [.endOfInput] := by
  have read : (card elvenSparkTokens .start).1 =
      some (elvenSpark, ⟨18, [⟨.endOfInput, ⟨60, 60⟩⟩]⟩) := by decide +kernel
  have whole : elvenSparkTokens.kinds.takeWhile (· ≠ .endOfInput) ++ [.endOfInput] =
      elvenSparkTokens.kinds := by decide +kernel
  obtain ⟨phrase, -⟩ := phrase_of_card read
  exact ⟨_, read, whole ▸ phrase, rfl⟩

end CardGame.Grammar
