import CardGame.Proofs.EffectReading

/-!
Reading printed clauses and abilities. Clear clauses, costs and triggers are read back one by one,
each before the mark or the clause that follows it.
-/

namespace CardGame.Grammar

open CardGame.Grammar.Parser
open Text (TokenKind separated)

/-! ### Uniformity -/

instance : Uniform continuation := by unfold continuation; infer_instance

instance {α : Type} (item : Parser α) [item.Uniform] : Uniform (sequenceOf item) := by
  unfold sequenceOf; infer_instance

instance : Uniform actingPlayers := by unfold actingPlayers; infer_instance

instance : Uniform playerClause := by unfold playerClause; infer_instance

instance : Uniform cardClause := by unfold cardClause; infer_instance

instance : Uniform effect := by unfold effect; infer_instance

instance : Uniform composed := by unfold composed; infer_instance

instance : Uniform abilityCost := by unfold abilityCost; infer_instance

instance : Uniform activated := by unfold activated; infer_instance

instance (negated : Bool) : Uniform (itsTurn negated) := by unfold itsTurn; infer_instance

instance : Uniform playerAction := by unfold playerAction; infer_instance

instance : Uniform cardAction := by unfold cardAction; infer_instance

instance : Uniform condition := by unfold condition; infer_instance

instance (verbs : List String) : Uniform (lifeChange verbs) := by unfold lifeChange; infer_instance

instance : Uniform played := by unfold played; infer_instance

instance : Uniform damaged := by unfold damaged; infer_instance

instance : Uniform trigger := by unfold trigger; infer_instance

instance : Uniform triggered := by unfold triggered; infer_instance

instance : Uniform ability := by unfold ability; infer_instance

/-! ### Clauses -/

theorem reads_continuation (ks : List TokenKind) :
    continuation.reads (thenSpelled ++ ks) = some ((), ks) := by
  simp [continuation, thenSpelled]

theorem continuation_none {ks : List TokenKind} (h : headKind ks ≠ .mark ',') :
    continuation.reads ks = none := by
  simp [continuation, mark_none h]

theorem reads_sequenceOf {α : Type} {item : Parser α} [item.Uniform] {spell : α → List TokenKind}
    {xs : List α} (nonempty : xs ≠ []) {after : List TokenKind}
    (each : ∀ before x rest, xs = before ++ x :: rest →
      item.reads (spell x ++ (rest.flatMap (fun y => thenSpelled ++ spell y) ++ after)) =
        some (x, rest.flatMap (fun y => thenSpelled ++ spell y) ++ after))
    (stops : (continuation >>= fun _ => item).reads after = none) :
    (sequenceOf item).reads (separated thenSpelled (xs.map spell) ++ after) = some (xs, after) := by
  obtain ⟨x, xs, rfl⟩ := List.exists_cons_of_ne_nil nonempty
  have others : (continuation >>= fun _ => item).readsAll
      (xs.flatMap (fun y => thenSpelled ++ spell y) ++ after) = (xs, after) := by
    refine readsAll_flatMap (fun before y rest split => ?_) (fun y _ => by simp [thenSpelled]) stops
    have own := each (x :: before) y rest (by rw [split]; rfl)
    rw [List.append_assoc, reads_bind, reads_continuation, Option.bind_some]
    exact own
  have first := each [] x xs rfl
  simp only [List.map_cons, separated, List.flatMap_map, List.append_assoc]
  simp [sequenceOf, first, others]

theorem reads_effects {α : Type} {item : Parser α} [item.Uniform] {spell : α → List TokenKind}
    {closes : α → List TokenKind → Prop} {xs : List α} (nonempty : xs ≠ []) {after : List TokenKind}
    (each : ∀ x ∈ xs, ∀ ks, closes x ks → item.reads (spell x ++ ks) = some (x, ks))
    (ends : ∀ x ks, Ends ks → closes x ks) (last : ∀ x ∈ xs.getLast?, closes x after)
    (stops : (continuation >>= fun _ => item).reads after = none) :
    (sequenceOf item).reads (separated thenSpelled (xs.map spell) ++ after) = some (xs, after) := by
  refine reads_sequenceOf nonempty (fun before x rest split => ?_) stops
  refine each x (by rw [split]; simp) _ ?_
  cases rest with
  | nil => exact last x (by rw [split]; simp)
  | cons y rest => exact ends x _ (.inr (.inr ⟨_, rfl⟩))

/-- Tokens before which a clause ends: its last effect does, and no more effects follow. -/
def ClauseCloses : Effect → List TokenKind → Prop
  | .player _ _ effects, after =>
    (∀ e ∈ effects.getLast?, EffectCloses e after) ∧
      (continuation >>= fun _ => playerEffect).reads after = none
  | .card _ effects, after =>
    (∀ e ∈ effects.getLast?, CardEffectCloses e after) ∧
      (continuation >>= fun _ => cardEffect).reads after = none

theorem startsPlayerEffect_spelled (e : PlayerEffect) (ks : List TokenKind) :
    startsPlayerEffect (headKind (e.spelled ++ ks)) := by
  cases e <;> rfl

theorem startsCardEffect_spelled {e : CardEffect} (h : e.Printable) (ks : List TokenKind) :
    startsCardEffect (headKind (e.spelled ++ ks)) := by
  cases e with
  | damage => rfl
  | gets => rfl
  | attack => exact nomatch h

theorem headKind_separated {α : Type} {spell : α → List TokenKind} {starts : TokenKind → Bool}
    {xs : List α} (nonempty : xs ≠ [])
    (each : ∀ x ∈ xs, ∀ ks, starts (headKind (spell x ++ ks))) (ks : List TokenKind) :
    starts (headKind (separated thenSpelled (xs.map spell) ++ ks)) := by
  obtain ⟨x, xs, rfl⟩ := List.exists_cons_of_ne_nil nonempty
  rw [List.map_cons, separated, List.append_assoc]
  exact each x List.mem_cons_self _

theorem actingPlayers_none {ks : List TokenKind} (h : startsPlayer (headKind ks) = false) :
    actingPlayers.reads ks = none := by
  simp [actingPlayers, playerMatch_none h]

theorem reads_playerClause {subject : Option PlayerMatch} {may : Bool}
    {effects : List PlayerEffect} {after : List TokenKind}
    (printable : (Effect.player subject may effects).Printable)
    (clear : (Effect.player subject may effects).isClear)
    (closes : ClauseCloses (.player subject may effects) after) :
    playerClause.reads ((Effect.player subject may effects).spelled ++ after) =
      some (.player subject may effects, after) := by
  obtain ⟨players, declines, nonempty, each⟩ := printable
  have effectsRead : (sequenceOf playerEffect).reads
      (separated thenSpelled (effects.map PlayerEffect.spelled) ++ after) = some (effects, after) :=
    reads_effects nonempty
      (fun e mem ks => reads_playerEffect (each e mem) (List.all_eq_true.1 clear e mem))
      (fun e ks => EffectCloses.of_ends e) closes.1 closes.2
  have verb : startsPlayerEffect
      (headKind (separated thenSpelled (effects.map PlayerEffect.spelled) ++ after)) :=
    headKind_separated nonempty (fun e _ => startsPlayerEffect_spelled e) after
  cases subject with
  | none =>
    have noPlayers := actingPlayers_none (contains_of_starts verb (by decide))
    have noChoice : may = false := Bool.eq_false_iff.2 fun h => nomatch declines h
    simp [playerClause, Effect.spelled, Effect.playersSpelled, noPlayers, effectsRead, noChoice]
  | some m =>
    have acting : actingPlayers.reads (Effect.playersSpelled may (some m) ++
        (separated thenSpelled (effects.map PlayerEffect.spelled) ++ after)) =
          some ((m, may), separated thenSpelled (effects.map PlayerEffect.spelled) ++ after) := by
      cases may with
      | true =>
        have who := reads_playerMatch (players m rfl) (.word "may" ::
          (separated thenSpelled (effects.map PlayerEffect.spelled) ++ after))
          (furtherPlayers_none (by simp) (by simp))
        simp [actingPlayers, Effect.playersSpelled, who]
      | false =>
        have who := reads_playerMatch (players m rfl)
          (separated thenSpelled (effects.map PlayerEffect.spelled) ++ after)
          (furtherPlayers_none (ne_of_starts verb (by decide)) fun w listed =>
            ne_of_starts verb (by
              simp only [List.mem_cons, List.not_mem_nil, or_false] at listed
              rcases listed with rfl | rfl <;> decide))
        have noChoice : (word "may").reads (separated thenSpelled
            (effects.map PlayerEffect.spelled) ++ after) = none :=
          word_none (ne_of_starts verb (by decide))
        simp [actingPlayers, Effect.playersSpelled, who, noChoice]
    simp [playerClause, Effect.spelled, acting, effectsRead]

theorem playerClause_none {ks : List TokenKind} (noPlayer : startsPlayer (headKind ks) = false)
    (noEffect : startsPlayerEffect (headKind ks) = false) : playerClause.reads ks = none := by
  simp [playerClause, sequenceOf, actingPlayers_none noPlayer, playerEffect_none noEffect]

theorem reads_cardClause {subject : Option CardMatch} {effects : List CardEffect}
    {after : List TokenKind} (printable : (Effect.card subject effects).Printable)
    (clear : (Effect.card subject effects).isClear)
    (closes : ClauseCloses (.card subject effects) after) :
    cardClause.reads ((Effect.card subject effects).spelled ++ after) =
      some (.card subject effects, after) := by
  obtain ⟨cards, nonempty, each⟩ := printable
  obtain ⟨subjectClear, eachClear⟩ := Bool.and_eq_true_iff.1 clear
  have effectsRead : (sequenceOf cardEffect).reads
      (separated thenSpelled (effects.map CardEffect.spelled) ++ after) = some (effects, after) :=
    reads_effects nonempty
      (fun e mem ks => reads_cardEffect (each e mem) (List.all_eq_true.1 eachClear e mem))
      (fun e ks => CardEffectCloses.of_ends e) closes.1 closes.2
  have verb : startsCardEffect
      (headKind (separated thenSpelled (effects.map CardEffect.spelled) ++ after)) :=
    headKind_separated nonempty (fun e mem => startsCardEffect_spelled (each e mem)) after
  cases subject with
  | none =>
    have noMatch : cardMatch.reads
        (separated thenSpelled (effects.map CardEffect.spelled) ++ after) = none :=
      cardMatch_none (starts_of_contains verb (by decide))
    simp [cardClause, Effect.spelled, noMatch, effectsRead]
  | some m =>
    have which := reads_cardMatch _ (cards m rfl) subjectClear
      (.of_halts _ _ (starts_of_contains verb (by decide)))
    simp [cardClause, Effect.spelled, which, effectsRead]

/-! ### Heads of clauses -/

theorem startsPlayer_spelled {m : PlayerMatch} (nonempty : m ≠ []) (ks : List TokenKind) :
    startsPlayer (headKind (m.spelled ++ ks)) := by
  obtain ⟨a, rest, rfl⟩ := List.exists_cons_of_ne_nil nonempty
  rw [PlayerMatch.spelled, List.map_cons, Text.enumerated, List.append_assoc]
  cases a <;> rfl

theorem startsPlayerEffect_of_startsMatch {k : TokenKind} (h : startsMatch k) :
    startsPlayerEffect k = false :=
  contains_of_starts h (by decide)

theorem startsCardEffect_of_startsMatch {k : TokenKind} (h : startsMatch k) :
    startsCardEffect k = false :=
  contains_of_starts h (by decide)

theorem startsPlayerEffect_of_startsPlayer {k : TokenKind} (h : startsPlayer k) :
    startsPlayerEffect k = false :=
  starts_of_contains h (by decide)

theorem startsCardEffect_of_startsPlayer {k : TokenKind} (h : startsPlayer k) :
    startsCardEffect k = false :=
  starts_of_contains h (by decide)

theorem startsPlayerEffect_of_startsCardEffect {k : TokenKind} (h : startsCardEffect k) :
    startsPlayerEffect k = false :=
  starts_of_contains h (by decide)

theorem startsCardEffect_of_startsPlayerEffect {k : TokenKind} (h : startsPlayerEffect k) :
    startsCardEffect k = false :=
  starts_of_contains h (by decide)

def startsEffect (k : TokenKind) : Bool :=
  startsPlayer k || startsPlayerEffect k || startsMatch k || startsCardEffect k

theorem effect_none {ks : List TokenKind} (h : startsEffect (headKind ks) = false) :
    effect.reads ks = none := by
  simp only [startsEffect, Bool.or_eq_false_iff] at h
  obtain ⟨⟨⟨noPlayer, noEffect⟩, noMatch⟩, noCardEffect⟩ := h
  have noCards : cardMatch.reads ks = none := cardMatch_none noMatch
  simp [effect, playerClause_none noPlayer noEffect, cardClause, sequenceOf, noCards,
    cardEffect_none noCardEffect]

section Subjects

variable {subject : Option CardMatch}

theorem headKind_player (may : Bool) (effects : List PlayerEffect) {m : PlayerMatch}
    (nonempty : m ≠ []) (ks : List TokenKind) :
    startsPlayer (headKind ((Effect.player (some m) may effects).spelled ++ ks)) := by
  rw [Effect.spelled, Effect.playersSpelled, List.append_assoc, List.append_assoc]
  exact startsPlayer_spelled nonempty _

theorem headKind_playerEffect (may : Bool) {effects : List PlayerEffect} (nonempty : effects ≠ [])
    (ks : List TokenKind) :
    startsPlayerEffect (headKind ((Effect.player none may effects).spelled ++ ks)) :=
  headKind_separated nonempty (fun e _ => startsPlayerEffect_spelled e) ks

theorem headKind_card (effects : List CardEffect) {m : CardMatch} (nonempty : m ≠ [])
    (ks : List TokenKind) :
    startsMatch (headKind ((Effect.card (some m) effects).spelled ++ ks)) := by
  rw [Effect.spelled, Option.toList_some, List.flatMap_singleton, List.append_assoc]
  exact startsMatch_spelled nonempty _

theorem headKind_cardEffect {effects : List CardEffect} (nonempty : effects ≠ [])
    (printable : ∀ e ∈ effects, e.Printable) (ks : List TokenKind) :
    startsCardEffect (headKind ((Effect.card none effects).spelled ++ ks)) :=
  headKind_separated nonempty (fun e mem => startsCardEffect_spelled (printable e mem)) ks

theorem playerClause_card_none {effects : List CardEffect}
    (printable : (Effect.card subject effects).Printable)
    (ks : List TokenKind) :
    playerClause.reads ((Effect.card subject effects).spelled ++ ks) = none := by
  obtain ⟨cards, nonempty, each⟩ := printable
  cases subject with
  | none =>
    have verb := headKind_cardEffect nonempty each ks
    exact playerClause_none (starts_of_contains verb (by decide))
      (startsPlayerEffect_of_startsCardEffect verb)
  | some m =>
    have head := headKind_card effects (cards m rfl).nonempty ks
    exact playerClause_none (startsPlayer_of_startsMatch head)
      (startsPlayerEffect_of_startsMatch head)

end Subjects

theorem reads_effect {e : Effect} {after : List TokenKind} (printable : e.Printable)
    (clear : e.isClear) (closes : ClauseCloses e after) :
    effect.reads (e.spelled ++ after) = some (e, after) := by
  cases e with
  | player subject may effects => simp [effect, reads_playerClause printable clear closes]
  | card subject effects =>
    simp [effect, playerClause_card_none printable, reads_cardClause printable clear closes]

theorem startsEffect_spelled {e : Effect} (printable : e.Printable) (ks : List TokenKind) :
    startsEffect (headKind (e.spelled ++ ks)) := by
  cases e with
  | player subject may effects =>
    cases subject with
    | none => simp [startsEffect, headKind_playerEffect may printable.2.2.1 ks]
    | some m => simp [startsEffect, headKind_player may effects (printable.1 m rfl) ks]
  | card subject effects =>
    cases subject with
    | none => simp [startsEffect, headKind_cardEffect printable.2.1 printable.2.2 ks]
    | some m =>
      simp [startsEffect, headKind_card effects (printable.1 m rfl).nonempty ks]

/-! ### Sentences -/

theorem ClauseCloses.of_ends (e : Effect) {ks : List TokenKind} (h : Ends ks)
    (noComma : headKind ks ≠ .mark ',') : ClauseCloses e ks := by
  cases e with
  | player subject may effects =>
    exact ⟨fun e _ => EffectCloses.of_ends e h, by simp [continuation_none noComma]⟩
  | card subject effects =>
    exact ⟨fun e _ => CardEffectCloses.of_ends e h, by simp [continuation_none noComma]⟩

theorem ClauseCloses.of_next {e next : Effect} (apart : e.apart next) (printable : next.Printable)
    (ks : List TokenKind) : ClauseCloses e (thenSpelled ++ (next.spelled ++ ks)) := by
  have ends : Ends (thenSpelled ++ (next.spelled ++ ks)) := .inr (.inr ⟨_, rfl⟩)
  cases e with
  | player subject may effects =>
    refine ⟨fun e _ => EffectCloses.of_ends e ends, ?_⟩
    have noEffect : startsPlayerEffect (headKind (next.spelled ++ ks)) = false := by
      cases next with
      | player subject may effects =>
        cases subject with
        | none => exact nomatch apart
        | some m =>
          exact startsPlayerEffect_of_startsPlayer
            (headKind_player may effects (printable.1 m rfl) ks)
      | card subject effects =>
        cases subject with
        | none =>
          exact startsPlayerEffect_of_startsCardEffect
            (headKind_cardEffect printable.2.1 printable.2.2 ks)
        | some m =>
          exact startsPlayerEffect_of_startsMatch
            (headKind_card effects (printable.1 m rfl).nonempty ks)
    simp [reads_continuation, playerEffect_none noEffect]
  | card subject effects =>
    refine ⟨fun e _ => CardEffectCloses.of_ends e ends, ?_⟩
    have noEffect : startsCardEffect (headKind (next.spelled ++ ks)) = false := by
      cases next with
      | player subject may effects =>
        cases subject with
        | none =>
          exact startsCardEffect_of_startsPlayerEffect
            (headKind_playerEffect may printable.2.2.1 ks)
        | some m =>
          exact startsCardEffect_of_startsPlayer
            (headKind_player may effects (printable.1 m rfl) ks)
      | card subject effects =>
        cases subject with
        | none => exact nomatch apart
        | some m =>
          exact startsCardEffect_of_startsMatch
            (headKind_card effects (printable.1 m rfl).nonempty ks)
    simp [reads_continuation, cardEffect_none noEffect]

theorem reads_composed {c : Composed} (printable : c.Printable) (clear : c.isClear)
    (after : List TokenKind) : composed.reads (c.spelled ++ after) = some (c, after) := by
  have clauses : (sequenceOf effect).reads
      (separated thenSpelled (c.effects.map Effect.spelled) ++ .mark '.' :: after) =
        some (c.effects, .mark '.' :: after) := by
    refine reads_sequenceOf printable.1 (fun before e rest split => ?_)
      (by rw [reads_bind, continuation_none (by simp)]; rfl)
    rw [Composed.isClear, split] at clear
    obtain ⟨own, apart⟩ := areClear_append clear
    refine reads_effect (printable.2 e (by rw [split]; simp)) own ?_
    cases rest with
    | nil => exact .of_ends e (.inl rfl) (by simp)
    | cons next rest =>
      rw [List.flatMap_cons, List.append_assoc, List.append_assoc]
      exact .of_next (apart next rfl) (printable.2 next (by rw [split]; simp)) _
  simp [composed, Composed.spelled, clauses]

/-! ### Costs -/

def beginsMatch (k : TokenKind) : Bool :=
  startsTrait k || [TokenKind.word "the", .word "target", .word "card", .word ownName,
    .word "this"].contains k

theorem beginsMatch_spelled {m : CardMatch} (nonempty : m ≠ []) (ks : List TokenKind) :
    beginsMatch (headKind (m.spelled ++ ks)) := by
  obtain ⟨a, rest, rfl⟩ := List.exists_cons_of_ne_nil nonempty
  rw [CardMatch.spelled, List.map_cons, Text.enumerated, List.append_assoc]
  cases a with
  | named => rfl
  | this => rfl
  | filter f =>
    obtain ⟨selector, traits, without, having, targeting⟩ := f
    unfold Alternative.spelled CardFilter.spelled
    cases selector with
    | some s => cases s <;> rfl
    | none =>
      cases traits with
      | nil => rfl
      | cons t traits => simp [beginsMatch, List.append_assoc, startsTrait_spelled]

def beginsCost (k : TokenKind) : Bool :=
  k == .mark '\x7b' || startsPlayer k || startsPlayerEffect k || startsCardEffect k || beginsMatch k

theorem beginsCost_spelled {c : AbilityCost} (printable : c.Printable) (ks : List TokenKind) :
    beginsCost (headKind (c.spelled ++ ks)) := by
  cases c with
  | symbol s => rfl
  | effect e =>
    rw [AbilityCost.spelled]
    cases e with
    | player subject may effects =>
      cases subject with
      | none => simp [beginsCost, headKind_playerEffect may printable.2.2.1 ks]
      | some m => simp [beginsCost, headKind_player may effects (printable.1 m rfl) ks]
    | card subject effects =>
      cases subject with
      | none => simp [beginsCost, headKind_cardEffect printable.2.1 printable.2.2 ks]
      | some m =>
        rw [Effect.spelled, Option.toList_some, List.flatMap_singleton, List.append_assoc]
        simp [beginsCost, beginsMatch_spelled (printable.1 m rfl).nonempty]

theorem zone_article_none {w : String} {ks : List TokenKind}
    (h : ∀ z : Zone, headKind ks ≠ .word z.word) (article : w ∈ ["your", "the"]) :
    zone.reads (.word w :: ks) = none := by
  have noZone : (wordAs "zone" Zone.ofWord?).reads ks = none :=
    wordAs_none fun w e => List.find?_eq_none.2 fun z _ same => h z (by rw [e, eq_of_beq same])
  simp [zone, article, noZone]

theorem zone_none_of_starts {starts : TokenKind → Bool} {ks : List TokenKind}
    (head : starts (headKind ks)) (zones : ∀ z : Zone, starts (.word z.word) = false)
    (your : starts (.word "your") = false) (the : starts (.word "the") = false) :
    zone.reads ks = none :=
  zone_none (fun z => ne_of_starts head (zones z)) (ne_of_starts head your) (ne_of_starts head the)

theorem zone_players_none {m : PlayerMatch} (nonempty : m ≠ []) (ks : List TokenKind) :
    zone.reads (m.spelled ++ ks) = none := by
  obtain ⟨a, rest, rfl⟩ := List.exists_cons_of_ne_nil nonempty
  rw [PlayerMatch.spelled, List.map_cons, Text.enumerated, List.append_assoc]
  cases a with
  | opponent => exact zone_article_none (fun z => by cases z <;> simp [Zone.word]) (by simp)
  | each | you | controller =>
    exact zone_none (fun z => by cases z <;> simp [PlayerAlternative.spelled, Zone.word])
      (by simp [PlayerAlternative.spelled]) (by simp [PlayerAlternative.spelled])

theorem zone_cards_none {m : CardMatch} (nonempty : m ≠ []) (ks : List TokenKind) :
    zone.reads (m.spelled ++ ks) = none := by
  obtain ⟨a, rest, rfl⟩ := List.exists_cons_of_ne_nil nonempty
  rw [CardMatch.spelled, List.map_cons, Text.enumerated, List.append_assoc]
  have single {w : String} (ks : List TokenKind) (other : ∀ z : Zone, w ≠ z.word)
      (noArticle : w ≠ "your" ∧ w ≠ "the") : zone.reads (.word w :: ks) = none :=
    zone_none (by simpa using other) (by simpa using noArticle.1) (by simpa using noArticle.2)
  cases a with
  | named => exact single _ (fun z => by cases z <;> decide) (by decide)
  | this => exact single _ (fun z => by cases z <;> decide) (by decide)
  | filter f =>
    obtain ⟨selector, traits, without, having, targeting⟩ := f
    unfold Alternative.spelled CardFilter.spelled
    cases selector with
    | some s =>
      cases s with
      | sacrificed => exact zone_article_none (fun z => by cases z <;> simp [Zone.word]) (by simp)
      | target => exact single _ (fun z => by cases z <;> decide) (by decide)
    | none =>
      cases traits with
      | nil => exact single _ (fun z => by cases z <;> decide) (by decide)
      | cons t traits =>
        simp only [Option.toList_none, List.flatMap_nil, List.nil_append, List.flatMap_cons,
          List.append_assoc]
        exact zone_none_of_starts (startsTrait_spelled t _) (fun z => by cases z <;> decide)
          (by decide) (by decide)

theorem zone_cost_none {c : AbilityCost} (printable : c.Printable) (ks : List TokenKind) :
    zone.reads (c.spelled ++ ks) = none := by
  cases c with
  | symbol s =>
    exact zone_none (fun z => by simp [AbilityCost.spelled, CostSymbol.spelled])
      (by simp [AbilityCost.spelled, CostSymbol.spelled])
      (by simp [AbilityCost.spelled, CostSymbol.spelled])
  | effect e =>
    rw [AbilityCost.spelled]
    cases e with
    | player subject may effects =>
      cases subject with
      | none =>
        exact zone_none_of_starts (headKind_playerEffect may printable.2.2.1 ks)
          (fun z => by cases z <;> decide) (by decide) (by decide)
      | some m =>
        rw [Effect.spelled, Effect.playersSpelled, List.append_assoc, List.append_assoc]
        exact zone_players_none (printable.1 m rfl) _
    | card subject effects =>
      cases subject with
      | none =>
        exact zone_none_of_starts (headKind_cardEffect printable.2.1 printable.2.2 ks)
          (fun z => by cases z <;> decide) (by decide) (by decide)
      | some m =>
        rw [Effect.spelled, Option.toList_some, List.flatMap_singleton, List.append_assoc]
        exact zone_cards_none (printable.1 m rfl).nonempty _

theorem Closes.of_takes (room : Nat) {o : Opening} {ks : List TokenKind}
    (h : o.takes (headKind ks) = false) (begins : beginsCost (headKind ks)) : Closes room o ks := by
  have noComma : headKind ks ≠ .mark ',' := ne_of_starts begins (by decide)
  have noAnd : headKind ks ≠ .word "and" := ne_of_starts begins (by decide)
  have noOr : headKind ks ≠ .word "or" := ne_of_starts begins (by decide)
  have noWithout : headKind ks ≠ .word "without" := ne_of_starts begins (by decide)
  have noWith : headKind ks ≠ .word "with" := ne_of_starts begins (by decide)
  obtain ⟨noNoun, noDescription⟩ := Bool.or_eq_false_iff.1 h
  have comma {α : Type} (p : Parser α) [p.Uniform] : (mark ',' >>= fun _ => p).reads ks = none := by
    simp [mark_none noComma]
  exact
    { noun := fun opened => by simpa [opened, and_assoc] using noNoun
      targeting := fun _ => ne_of_starts begins (by decide)
      trail := fun _ => by simp [trailing, word_none noOr]
      description := fun opened => by simpa [opened] using noDescription
      alternatives := fun depth _ => furtherItems_none (comma _) (by simp [noAnd, noOr])
      qualifier := by simp [noWithout, noWith, noAnd]
      stroke := ne_of_starts begins (by decide)
      keyword := comma _ }

theorem EffectCloses.of_takes {e : PlayerEffect} {ks : List TokenKind}
    (h : e.takes (headKind ks) = false) (begins : beginsCost (headKind ks))
    (noZone : zone.reads ks = none) : EffectCloses e ks := by
  cases e with
  | discard n filter =>
    cases filter with
    | some m => exact Closes.of_takes _ h begins
    | none => exact h
  | put objects position destination anyOrder randomOrder deactivated =>
    refine ⟨noZone, ne_of_starts begins (by decide), fun absent => ?_⟩
    simpa [PlayerEffect.takes, absent] using h
  | destroy | activate | deactivate | sacrifice => exact Closes.of_takes _ h begins
  | shuffle | look => exact noZone
  | add | payEssence => simpa [PlayerEffect.takes, EffectCloses] using h
  | draw | token | gainLife | loseLife | payLife | extraTurn => trivial

theorem CardEffectCloses.of_takes {e : CardEffect} {ks : List TokenKind}
    (h : e.takes (headKind ks) = false) (begins : beginsCost (headKind ks)) :
    CardEffectCloses e ks := by
  cases e with
  | damage n target =>
    cases target with
    | player m =>
      have noAnd : headKind ks ≠ .word "and" := ne_of_starts begins (by decide)
      have noOr : headKind ks ≠ .word "or" := ne_of_starts begins (by decide)
      exact furtherPlayers_none (ne_of_starts begins (by decide)) (by simp [noAnd, noOr])
    | card m => exact Closes.of_takes _ h begins
    | anyTarget => trivial
  | gets | attack => trivial

theorem ClauseCloses.of_takes {e : Effect} {ks : List TokenKind} (h : e.takes (headKind ks) = false)
    (begins : beginsCost (headKind ks)) (noZone : zone.reads ks = none) : ClauseCloses e ks := by
  have stops : continuation.reads ks = none := continuation_none (ne_of_starts begins (by decide))
  cases e with
  | player subject may effects =>
    refine ⟨fun e last => EffectCloses.of_takes ?_ begins noZone, by simp [stops]⟩
    simpa [Effect.takes, Option.mem_def.1 last] using h
  | card subject effects =>
    refine ⟨fun e last => CardEffectCloses.of_takes ?_ begins, by simp [stops]⟩
    simpa [Effect.takes, Option.mem_def.1 last] using h

theorem reads_abilityCost {c : AbilityCost} {after : List TokenKind} (printable : c.Printable)
    (clear : c.isClear) (closes : ∀ e, c = .effect e → ClauseCloses e after) :
    abilityCost.reads (c.spelled ++ after) = some (c, after) := by
  cases c with
  | symbol s => simp [abilityCost, AbilityCost.spelled, reads_costSymbol]
  | effect e =>
    have noSymbol : costSymbol.reads (e.spelled ++ after) = none :=
      costSymbol_none (ne_of_starts (startsEffect_spelled printable after) (by decide))
    simp [abilityCost, AbilityCost.spelled, noSymbol, reads_effect printable clear (closes e rfl)]

theorem abilityCost_none {ks : List TokenKind} (noSymbol : headKind ks ≠ .mark '\x7b')
    (noEffect : effect.reads ks = none) : abilityCost.reads ks = none := by
  simp [abilityCost, costSymbol_none noSymbol, noEffect]

theorem cost_spelled_ne_nil {c : AbilityCost} (printable : c.Printable) : c.spelled ≠ [] := by
  intro e
  have begins := beginsCost_spelled printable []
  rw [e] at begins
  exact nomatch begins

theorem closes_cost {a : Activated} (printable : a.Printable) (clear : a.isClear)
    {before rest : List AbilityCost} {e : Effect} (split : a.costs = before ++ .effect e :: rest)
    (after : List TokenKind) :
    ClauseCloses e (rest.flatMap AbilityCost.spelled ++ .mark ':' :: after) := by
  obtain ⟨costsClear, -⟩ := Bool.and_eq_true_iff.1 clear
  rw [split] at costsClear
  obtain ⟨-, apart⟩ := areClear_append costsClear
  cases rest with
  | nil => exact .of_ends e (.inr (.inl rfl)) (by simp)
  | cons d rest =>
    have dPrintable : d.Printable := printable.2.1 d (by rw [split]; simp)
    rw [List.flatMap_cons, List.append_assoc]
    refine .of_takes ?_ (beginsCost_spelled dPrintable _) (zone_cost_none dPrintable _)
    obtain ⟨k, ks, spelled⟩ := List.exists_cons_of_ne_nil (cost_spelled_ne_nil dPrintable)
    have own := apart d rfl
    rw [AbilityCost.apart, spelled] at own
    rw [spelled]
    simpa [AbilityCost.takes] using own

theorem reads_activated {a : Activated} (printable : a.Printable) (clear : a.isClear)
    (after : List TokenKind) : activated.reads (a.spelled ++ after) = some (a, after) := by
  obtain ⟨costsClear, boughtClear⟩ := Bool.and_eq_true_iff.1 clear
  have bought := reads_composed printable.2.2 boughtClear after
  have stops : abilityCost.reads (.mark ':' :: (a.effect.spelled ++ after)) = none :=
    abilityCost_none (by simp) (effect_none rfl)
  have each (before : List AbilityCost) (c : AbilityCost) (rest : List AbilityCost)
      (split : a.costs = before ++ c :: rest) :
      abilityCost.reads (c.spelled ++ (rest.flatMap AbilityCost.spelled
          ++ .mark ':' :: (a.effect.spelled ++ after))) =
        some (c, rest.flatMap AbilityCost.spelled ++ .mark ':' :: (a.effect.spelled ++ after)) := by
    refine reads_abilityCost (printable.2.1 c (by rw [split]; simp)) ?_ fun e own =>
      closes_cost printable clear (by rw [split, own]) _
    rw [split] at costsClear
    exact (areClear_append costsClear).1
  obtain ⟨costs, effect⟩ := a
  obtain ⟨c, rest, rfl⟩ := List.exists_cons_of_ne_nil printable.1
  have first := each [] c rest rfl
  have others : abilityCost.readsAll (rest.flatMap AbilityCost.spelled
      ++ .mark ':' :: (effect.spelled ++ after)) =
        (rest, .mark ':' :: (effect.spelled ++ after)) := by
    refine readsAll_flatMap (fun before d later split => ?_) (fun d mem => ?_) stops
    · exact each (c :: before) d later (by rw [split]; rfl)
    · exact cost_spelled_ne_nil (printable.2.1 d (List.mem_cons_of_mem c mem))
  simp [activated, many1, Activated.spelled, first, others, bought]

/-! ### Triggers -/

theorem itsTurn_none {negated : Bool} {ks : List TokenKind} (h : headKind ks ≠ .word "it") :
    (itsTurn negated).reads ks = none := by
  simp [itsTurn, word_none h]

theorem cardMatchWithin_pronoun (room : Nat) {ks : List TokenKind}
    (stops : halts (headKind ks)) :
    (cardMatchWithin (room + 1)).reads (.word "it" :: ks) = some ([.this], ks) := by
  have noFurther : (furtherItems ["and", "or"] (alternative (cardMatchWithin room))).reads
      ks = none :=
    (Closes.of_halts room { alternatives := [0] } stops).alternatives 0 (by simp)
  have own : (alternative (cardMatchWithin room)).reads (.word "it" :: ks) = some (.this, ks) := by
    simp [alternative, ownName]
  simp [cardMatchWithin, enumeration, own, noFurther]

theorem cardMatch_pronoun {ks : List TokenKind} (stops : halts (headKind ks)) :
    cardMatch.reads (.word "it" :: ks) = some ([.this], ks) :=
  cardMatchWithin_pronoun 31 stops

theorem cardMatch_none_of_startsPlayer {ks : List TokenKind} (h : startsPlayer (headKind ks)) :
    cardMatch.reads ks = none :=
  cardMatch_none (starts_of_contains h (by decide))

theorem reads_condition {c : Condition} {after : List TokenKind} (printable : c.Printable)
    (clear : c.isClear) (closes : Closes (maxMatchDepth - 1) c.opening after) :
    condition.reads (c.spelled ++ after) = some (c, after) := by
  cases c with
  | yourTurn => simp [condition, Condition.spelled, itsTurn, possessive]
  | notYourTurn => simp [condition, Condition.spelled, itsTurn, possessive]
  | player who action =>
    have nonempty : who ≠ [] := by
      cases action with
      | sacrifice m => exact printable.1
      | draw => exact printable
    have noTurn (negated : Bool) (ks : List TokenKind) :
        (itsTurn negated).reads (who.spelled ++ ks) = none :=
      itsTurn_none (ne_of_starts (startsPlayer_spelled nonempty ks) (by decide))
    cases action with
    | sacrifice m =>
      have players := reads_playerMatch nonempty (.word "sacrifices" :: (m.spelled ++ after))
        (furtherPlayers_none (by simp) (by simp))
      have cards := reads_cardMatch after printable.2 clear closes
      simp [condition, Condition.spelled, noTurn, players, playerAction, cards]
    | draw =>
      have players := reads_playerMatch nonempty
        (.word "draws" :: .word "a" :: .word "card" :: after)
        (furtherPlayers_none (by simp) (by simp))
      simp [condition, Condition.spelled, noTurn, players, playerAction]
  | card which action =>
    have nonempty : which ≠ [] := CardMatch.Printable.nonempty printable
    have noTurn (negated : Bool) (ks : List TokenKind) :
        (itsTurn negated).reads (which.spelled ++ ks) = none :=
      itsTurn_none (ne_of_starts (beginsMatch_spelled nonempty ks) (by decide))
    have noPlayer (ks : List TokenKind) : playerMatch.reads (which.spelled ++ ks) = none :=
      playerMatch_none (startsPlayer_of_startsMatch (startsMatch_spelled nonempty ks))
    have cards (ks : List TokenKind) (stops : halts (headKind ks)) :
        cardMatch.reads (which.spelled ++ ks) = some (which, ks) :=
      reads_cardMatch ks printable clear (.of_halts _ _ stops)
    cases action with
    | entersBoard =>
      have own := cards (.word "is" :: .word "put" :: .word "on" :: .word "the" :: .word "board"
        :: after) rfl
      simp [condition, Condition.spelled, noTurn, noPlayer, own, cardAction]
    | leavesBoard =>
      have own := cards (.word "leaves" :: .word "the" :: .word "board" :: after) rfl
      simp [condition, Condition.spelled, noTurn, noPlayer, own, cardAction]
  | numerical s comparison =>
    have noTurn (negated : Bool) (ks : List TokenKind) :
        (itsTurn negated).reads (.word s.word :: ks) = none :=
      itsTurn_none (by cases s <;> simp [Stat.word])
    have noPlayer (ks : List TokenKind) : playerMatch.reads (.word s.word :: ks) = none :=
      playerMatch_none (by cases s <;> rfl)
    have noCard (ks : List TokenKind) : cardMatch.reads (.word s.word :: ks) = none :=
      cardMatch_none (by cases s <;> rfl)
    have compared : (Grammar.comparison cardMatch).reads (comparison.spelled ++ after) =
        some (comparison, after) :=
      reads_comparison (reads_cardMatchWithin maxMatchDepth) printable clear closes
    simp [condition, Condition.spelled, noTurn, noPlayer, noCard, reads_stat, compared]

theorem played_none {ks : List TokenKind} (h : headKind ks ≠ .word "you") :
    played.reads ks = none := by
  simp [played, word_none h]

theorem played_players_none {m : PlayerMatch} (nonempty : m ≠ []) {w : String} (other : w ≠ "play")
    (ks : List TokenKind) : played.reads (m.spelled ++ .word w :: ks) = none := by
  obtain ⟨a, rest, rfl⟩ := List.exists_cons_of_ne_nil nonempty
  rw [PlayerMatch.spelled, List.map_cons, Text.enumerated, List.append_assoc]
  cases a with
  | you =>
    obtain _ | ⟨b, _ | ⟨c, rest⟩⟩ := rest
    · simp [played, PlayerAlternative.spelled, Text.further, other]
    · simp [played, PlayerAlternative.spelled, Text.further]
    · simp [played, PlayerAlternative.spelled, Text.further]
  | each | opponent | controller => simp [played, PlayerAlternative.spelled]

theorem damaged_none {ks : List TokenKind} (h : cardMatch.reads ks = none) :
    damaged.reads ks = none := by
  simp [damaged, h]

theorem lifeChange_none {verbs : List String} {ks : List TokenKind}
    (h : startsPlayer (headKind ks) = false) : (lifeChange verbs).reads ks = none := by
  simp [lifeChange, playerMatch_none h]

section Lives

variable {m : PlayerMatch} (nonempty : m ≠ []) {w : String} (noConjunction : w ∉ ["and", "or"])
  (verbs : List String) (ks : List TokenKind)

include nonempty noConjunction

theorem reads_players_before :
    playerMatch.reads (m.spelled ++ .word w :: ks) = some (m, .word w :: ks) := by
  simp only [List.mem_cons, List.not_mem_nil, or_false, not_or] at noConjunction
  exact reads_playerMatch nonempty _ (furtherPlayers_none (by simp) (by simp [noConjunction]))

theorem lifeChange_other (other : w ∉ verbs) :
    (lifeChange verbs).reads (m.spelled ++ .word w :: ks) = none := by
  simp [lifeChange, reads_players_before nonempty noConjunction, other]

theorem reads_lifeChange (listed : w ∈ verbs) :
    (lifeChange verbs).reads (m.spelled ++ .word w :: .word "life" :: ks) = some (m, ks) := by
  simp [lifeChange, reads_players_before nonempty noConjunction, listed]

end Lives

/-- The other forms of a trigger fail on a condition. -/
structure OnlyCondition (ks : List TokenKind) : Prop where
  played : played.reads ks = none
  gained : (lifeChange ["gain", "gains"]).reads ks = none
  lost : (lifeChange ["lost", "loses", "lose"]).reads ks = none
  damaged : damaged.reads ks = none

theorem OnlyCondition.of_pronoun (ks : List TokenKind) :
    OnlyCondition (.word "it" :: .mark '\'' :: ks) where
  played := played_none (by simp)
  gained := lifeChange_none rfl
  lost := lifeChange_none rfl
  damaged := by
    have own : cardMatch.reads (.word "it" :: .mark '\'' :: ks) =
        some ([.this], .mark '\'' :: ks) :=
      cardMatch_pronoun rfl
    simp [Grammar.damaged, own]

theorem onlyCondition {c : Condition} (printable : c.Printable) (clear : c.isClear)
    (after : List TokenKind) : OnlyCondition (c.spelled ++ after) := by
  cases c with
  | yourTurn => exact .of_pronoun _
  | notYourTurn => exact .of_pronoun _
  | player who action =>
    have players {w : String} (nonempty : who ≠ []) (verb : w ∈ ["sacrifices", "draws"])
        (ks : List TokenKind) : OnlyCondition (who.spelled ++ .word w :: ks) := by
      have noCards : cardMatch.reads (who.spelled ++ .word w :: ks) = none :=
        cardMatch_none_of_startsPlayer (startsPlayer_spelled nonempty _)
      simp only [List.mem_cons, List.not_mem_nil, or_false] at verb
      rcases verb with rfl | rfl <;>
        exact
          { played := played_players_none nonempty (by decide) ks
            gained := lifeChange_other nonempty (by decide) _ ks (by decide)
            lost := lifeChange_other nonempty (by decide) _ ks (by decide)
            damaged := damaged_none noCards }
    cases action with
    | sacrifice m =>
      rw [Condition.spelled, List.append_assoc]
      exact players printable.1 (by simp) _
    | draw =>
      rw [Condition.spelled, List.append_assoc]
      exact players printable (by simp) _
  | card which action =>
    have nonempty : which ≠ [] := CardMatch.Printable.nonempty printable
    have cards {w : String} (verb : halts (.word w)) (ks : List TokenKind)
        (other : (words ["is", "dealt", "damage"]).reads (.word w :: ks) = none) :
        OnlyCondition (which.spelled ++ .word w :: ks) := by
      have own := reads_cardMatch (.word w :: ks) printable clear (.of_halts _ _ verb)
      have noPlayer : startsPlayer (headKind (which.spelled ++ .word w :: ks)) = false :=
        startsPlayer_of_startsMatch (startsMatch_spelled nonempty _)
      exact
        { played := played_none (ne_of_starts (beginsMatch_spelled nonempty _) (by decide))
          gained := lifeChange_none noPlayer
          lost := lifeChange_none noPlayer
          damaged := by rw [Grammar.damaged, reads_bind, own]; simpa using other }
    cases action with
    | entersBoard =>
      rw [Condition.spelled, List.append_assoc]
      exact cards rfl _ (by simp)
    | leavesBoard =>
      rw [Condition.spelled, List.append_assoc]
      exact cards rfl _ (by simp)
  | numerical s comparison =>
    have noPlayer : startsPlayer (.word s.word) = false := by cases s <;> rfl
    exact
      { played := played_none (by cases s <;> simp [Condition.spelled, Stat.word])
        gained := lifeChange_none noPlayer
        lost := lifeChange_none noPlayer
        damaged := damaged_none (cardMatch_none (by cases s <;> rfl)) }

theorem reads_trigger {t : Trigger} (after : List TokenKind) (printable : t.Printable)
    (clear : t.isClear) (closes : Closes (maxMatchDepth - 1) t.opening after) :
    trigger.reads (t.spelled ++ after) = some (t, after) := by
  cases t with
  | play m =>
    have cards := reads_cardMatch after printable clear closes
    simp [trigger, Trigger.spelled, Trigger.eventSpelled, played, cards]
  | gainLife m =>
    have noPlay : played.reads (m.spelled ++ .word "gains" :: .word "life" :: after) = none :=
      played_players_none printable (by decide) _
    have life := reads_lifeChange printable (w := "gains") (by decide) ["gain", "gains"] after
      (by decide)
    simp [trigger, Trigger.spelled, Trigger.eventSpelled, noPlay, life]
  | loseLife m =>
    have noPlay : played.reads (m.spelled ++ .word "loses" :: .word "life" :: after) = none :=
      played_players_none printable (by decide) _
    have noGain := lifeChange_other printable (w := "loses") (by decide) ["gain", "gains"]
      (.word "life" :: after) (by decide)
    have life := reads_lifeChange printable (w := "loses") (by decide) ["lost", "loses", "lose"]
      after (by decide)
    simp [trigger, Trigger.spelled, Trigger.eventSpelled, noPlay, noGain, life]
  | dealtDamage m =>
    have nonempty : m ≠ [] := CardMatch.Printable.nonempty printable
    have noPlay (ks : List TokenKind) : played.reads (m.spelled ++ ks) = none :=
      played_none (ne_of_starts (beginsMatch_spelled nonempty _) (by decide))
    have noLife (verbs : List String) (ks : List TokenKind) :
        (lifeChange verbs).reads (m.spelled ++ ks) = none :=
      lifeChange_none (startsPlayer_of_startsMatch (startsMatch_spelled nonempty _))
    have cards := reads_cardMatch (.word "is" :: .word "dealt" :: .word "damage" :: after) printable
      clear (.of_halts _ _ rfl)
    simp [trigger, Trigger.spelled, Trigger.eventSpelled, noPlay, noLife, damaged, cards]
  | condition c =>
    obtain ⟨noPlay, noGain, noLoss, noDamage⟩ := onlyCondition printable clear after
    have own := reads_condition printable clear closes
    simp [trigger, Trigger.spelled, Trigger.eventSpelled, noPlay, noGain, noLoss, noDamage, own]

theorem furtherItems_single {α : Type} {conjunctions : List String} {item : Parser α}
    [item.Uniform] {ks rest : List TokenKind} {a : α} (one : item.reads ks = some (a, rest))
    (comma : headKind rest ≠ .mark ',')
    (conjunction : ∀ w ∈ conjunctions, headKind rest ≠ .word w) :
    (furtherItems conjunctions item).reads (.mark ',' :: ks) = none := by
  have first : (mark ',' >>= fun _ => item).reads (.mark ',' :: ks) = some (a, rest) := by
    simpa using one
  have middle : (mark ',' >>= fun _ => item).readsAll (.mark ',' :: ks) = ([a], rest) := by
    rw [readsAll_of_some first (Nat.lt_succ_of_le (reads_suffix one).length_le),
      readsAll_of_none (by simp [mark_none comma])]
  simp [furtherItems, middle, oneOf_none conjunction]

theorem startsEffect_composed {c : Composed} (printable : c.Printable) (ks : List TokenKind) :
    startsEffect (headKind (c.spelled ++ ks)) := by
  rw [Composed.spelled, List.append_assoc]
  exact headKind_separated printable.1 (fun e mem => startsEffect_spelled (printable.2 e mem)) _

theorem further_subject_none {m : CardMatch} {effects : List CardEffect} {room : Nat}
    (printable : (Effect.card (some m) effects).Printable) (clear : m.isClear)
    (single : m.length = 1) (fits : m.fits (room + 1)) (ks : List TokenKind) :
    (furtherItems ["and", "or"] (alternative (cardMatchWithin room))).reads
      (.mark ',' :: ((Effect.card (some m) effects).spelled ++ ks)) = none := by
  obtain ⟨cards, nonempty, each⟩ := printable
  obtain ⟨a, rfl⟩ := List.length_eq_one_iff.1 single
  have verb : startsCardEffect
      (headKind (separated thenSpelled (effects.map CardEffect.spelled) ++ ks)) :=
    headKind_separated nonempty (fun e mem => startsCardEffect_spelled (each e mem)) ks
  have aPrintable : a.Printable (CardMatch.Printable room) :=
    (CardMatch.Printable.of_fits (cards [a] rfl) fits).2 a List.mem_cons_self
  have aClear : a.isClear := (@alternativesAreClear_append [] a [] clear).1
  have one := reads_alternative (reads_cardMatchWithin room) aPrintable aClear
    (.of_halts (room - 1) a.opening (starts_of_contains verb (by decide)))
  rw [Effect.spelled, Option.toList_some, List.flatMap_singleton, CardMatch.spelled, List.map_cons,
    List.map_nil, Text.enumerated, Text.further, List.append_nil, List.append_assoc]
  refine furtherItems_single one (ne_of_starts verb (by decide)) fun w listed =>
    ne_of_starts verb ?_
  simp only [List.mem_cons, List.not_mem_nil, or_false] at listed
  rcases listed with rfl | rfl <;> decide

/-- A trigger's last match ends before what it causes, even where it would take more
alternatives. -/
theorem further_composed_none {c : Composed} {depth : Nat} (printable : c.Printable)
    (clear : c.isClear) (apart : c.staysApart depth) (after : List TokenKind) :
    (furtherItems ["and", "or"] (alternative (cardMatchWithin (maxMatchDepth - 1 - depth)))).reads
      (.mark ',' :: (c.spelled ++ after)) = none := by
  obtain ⟨effects⟩ := c
  obtain ⟨e, rest, rfl⟩ := List.exists_cons_of_ne_nil printable.1
  have ePrintable : e.Printable := printable.2 e List.mem_cons_self
  have eClear : e.isClear := (@areClear_append _ _ _ [] e rest clear).1
  have noSubject {ks : List TokenKind} (h : startsMatch (headKind ks) = false) :
      (furtherItems ["and", "or"] (alternative (cardMatchWithin (maxMatchDepth - 1 - depth)))).reads
        (.mark ',' :: ks) = none :=
    furtherItems_none (by simp [alternative_none _ h]) (by simp)
  rw [Composed.spelled, List.map_cons, separated, List.append_assoc, List.append_assoc]
  cases e with
  | player subject may effects =>
    cases subject with
    | none =>
      exact noSubject (starts_of_contains (headKind_playerEffect may ePrintable.2.2.1 _)
        (by decide))
    | some m =>
      exact noSubject (starts_of_contains (headKind_player may effects (ePrintable.1 m rfl) _)
        (by decide))
  | card subject effects =>
    cases subject with
    | none =>
      exact noSubject (starts_of_contains
        (headKind_cardEffect ePrintable.2.1 ePrintable.2.2 _) (by decide))
    | some m =>
      obtain ⟨single, fits⟩ := Bool.and_eq_true_iff.1 apart
      have mClear : m.isClear := (Bool.and_eq_true_iff.1 eClear).1
      have room : maxMatchDepth - depth = maxMatchDepth - 1 - depth + 1 := by
        have : maxMatchDepth - depth ≠ 0 := fun e => by
          rw [e] at fits
          exact absurd fits Bool.false_ne_true
        omega
      rw [room] at fits
      exact further_subject_none ePrintable mClear (eq_of_beq single) fits _

theorem reads_triggered {t : Triggered} (printable : t.Printable) (clear : t.isClear)
    (after : List TokenKind) : triggered.reads (t.spelled ++ after) = some (t, after) := by
  simp only [Triggered.isClear, Bool.and_eq_true, List.all_eq_true] at clear
  obtain ⟨⟨triggerClear, effectClear⟩, apart⟩ := clear
  have caused := reads_composed printable.2 effectClear after
  have head := startsEffect_composed printable.2 after
  have cause := reads_trigger (.mark ',' :: (t.effect.spelled ++ after)) printable.1 triggerClear
    (.of_comma _ _ (fun k => ne_of_starts head (by cases k <;> decide))
      fun depth mem => further_composed_none printable.2 effectClear (apart depth mem) after)
  simp [triggered, Triggered.spelled, cause, caused]

/-! ### Abilities -/

theorem composed_none {ks : List TokenKind} (h : effect.reads ks = none) :
    composed.reads ks = none := by
  simp [composed, sequenceOf, h]

theorem activated_none {ks : List TokenKind} (h : abilityCost.reads ks = none) :
    activated.reads ks = none := by
  simp [activated, many1, h]

theorem triggered_none {ks : List TokenKind}
    (h : ∀ w ∈ ["when", "whenever"], headKind ks ≠ .word w) : triggered.reads ks = none := by
  simp [triggered, trigger, oneOf_none h]

theorem composed_activated_none {a : Activated} (printable : a.Printable) (clear : a.isClear)
    (after : List TokenKind) : composed.reads (a.spelled ++ after) = none := by
  have closes := @closes_cost a printable clear []
  obtain ⟨costsClear, -⟩ := Bool.and_eq_true_iff.1 clear
  obtain ⟨costs, bought⟩ := a
  obtain ⟨c, rest, rfl⟩ := List.exists_cons_of_ne_nil printable.1
  rw [Activated.spelled, List.flatMap_cons, List.append_assoc, List.append_assoc]
  cases c with
  | symbol s => exact composed_none (effect_none rfl)
  | effect e =>
    have own := reads_effect (printable.2.1 _ List.mem_cons_self)
      (@areClear_append _ _ _ [] _ rest costsClear).1
      (closes rfl (bought.spelled ++ after))
    have head {k : TokenKind} (noCost : beginsCost k = false) (noColon : k ≠ .mark ':') :
        headKind (rest.flatMap AbilityCost.spelled ++ .mark ':' ::
          (bought.spelled ++ after)) ≠ k := by
      cases rest with
      | nil => exact Ne.symm noColon
      | cons d rest =>
        have dPrintable : d.Printable := printable.2.1 d (by simp)
        rw [List.flatMap_cons, List.append_assoc]
        exact ne_of_starts (beginsCost_spelled dPrintable _) noCost
    have noMore : (continuation >>= fun _ => effect).readsAll (rest.flatMap AbilityCost.spelled
        ++ .mark ':' :: (bought.spelled ++ after)) =
          ([], rest.flatMap AbilityCost.spelled ++ .mark ':' :: (bought.spelled ++ after)) :=
      readsAll_of_none (by
        rw [reads_bind, continuation_none (head (by decide) (by simp))]
        rfl)
    have noStop : (mark '.').reads (rest.flatMap AbilityCost.spelled
        ++ .mark ':' :: (bought.spelled ++ after)) = none :=
      mark_none (head (by decide) (by simp))
    simp [composed, sequenceOf, AbilityCost.spelled, own, noMore, noStop]

theorem beginsCost_composed {c : Composed} (printable : c.Printable) (ks : List TokenKind) :
    beginsCost (headKind (c.spelled ++ ks)) := by
  rw [Composed.spelled, List.append_assoc]
  exact headKind_separated printable.1
    (fun e mem => beginsCost_spelled (c := .effect e) (printable.2 e mem)) _

theorem beginsCost_activated {a : Activated} (printable : a.Printable) (ks : List TokenKind) :
    beginsCost (headKind (a.spelled ++ ks)) := by
  obtain ⟨costs, bought⟩ := a
  obtain ⟨c, rest, rfl⟩ := List.exists_cons_of_ne_nil printable.1
  rw [Activated.spelled, List.flatMap_cons, List.append_assoc, List.append_assoc]
  exact beginsCost_spelled (printable.2.1 c List.mem_cons_self) _

theorem ability_none {ks : List TokenKind} (noKeyword : keyword.reads ks = none)
    (noEffect : effect.reads ks = none) (noSymbol : headKind ks ≠ .mark '\x7b')
    (noTrigger : ∀ w ∈ ["when", "whenever"], headKind ks ≠ .word w) : ability.reads ks = none := by
  simp [ability, noKeyword, composed_none noEffect,
    activated_none (abilityCost_none noSymbol noEffect), triggered_none noTrigger]

theorem reads_ability {a : Ability} (printable : a.Printable) (clear : a.isClear)
    (after : List TokenKind) : ability.reads (a.spelled ++ after) = some (a, after) := by
  cases a with
  | keyword k => simp [ability, Ability.spelled, reads_keyword]
  | composed c =>
    have noKeyword : keyword.reads (c.spelled ++ after) = none :=
      keyword_none fun k => ne_of_starts (beginsCost_composed printable after)
        (by cases k <;> decide)
    simp [ability, Ability.spelled, noKeyword, reads_composed printable clear]
  | activated a =>
    have noKeyword : keyword.reads (a.spelled ++ after) = none :=
      keyword_none fun k => ne_of_starts (beginsCost_activated printable after)
        (by cases k <;> decide)
    simp [ability, Ability.spelled, noKeyword, composed_activated_none printable clear,
      reads_activated printable clear]
  | triggered t =>
    have noKeyword : keyword.reads (t.spelled ++ after) = none :=
      keyword_none fun k => by cases k <;> simp [Triggered.spelled, Trigger.spelled, Keyword.word]
    have noEffect : effect.reads (t.spelled ++ after) = none := effect_none rfl
    have noCost : abilityCost.reads (t.spelled ++ after) = none :=
      abilityCost_none (by simp [Triggered.spelled, Trigger.spelled]) noEffect
    simp [ability, Ability.spelled, noKeyword, composed_none noEffect, activated_none noCost,
      reads_triggered printable clear]

def beginsAbility (k : TokenKind) : Bool :=
  beginsCost k || (.word "when" :: Keyword.all.map fun w => TokenKind.word w.word).contains k

theorem beginsAbility_spelled {a : Ability} (printable : a.Printable) (ks : List TokenKind) :
    beginsAbility (headKind (a.spelled ++ ks)) := by
  cases a with
  | keyword k => cases k <;> rfl
  | composed c => simp [beginsAbility, Ability.spelled, beginsCost_composed printable ks]
  | activated a => simp [beginsAbility, Ability.spelled, beginsCost_activated printable ks]
  | triggered t => rfl

end CardGame.Grammar
