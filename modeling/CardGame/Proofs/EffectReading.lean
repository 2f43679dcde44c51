import CardGame.Grammar.Effect
import CardGame.Proofs.CardClarity
import CardGame.Proofs.MatchReading

/-!
Reading printed effects. A clear effect is read back from its tokens where nothing follows that
could be read into its end; every effect fails without its verb.
-/

namespace CardGame.Grammar

open CardGame.Grammar.Parser
open Text (TokenKind enumerated further separated)

/-! ### Uniformity -/

instance (w : String) : Uniform (verb w) := by unfold verb; infer_instance

instance : Uniform draw := by unfold draw; infer_instance

instance : Uniform tokenKind := by unfold tokenKind; infer_instance

instance : Uniform createToken := by unfold createToken; infer_instance

instance (p : Parser Unit) [p.Uniform] : Uniform (lifeAmount p) := by
  unfold lifeAmount; infer_instance

instance : Uniform discard := by unfold discard; infer_instance

instance : Uniform shuffled := by unfold shuffled; infer_instance

instance : Uniform shuffle := by unfold shuffle; infer_instance

instance : Uniform extraTurn := by unfold extraTurn; infer_instance

instance : Uniform look := by unfold look; infer_instance

instance : Uniform putPosition := by unfold putPosition; infer_instance

instance : Uniform put := by unfold put; infer_instance

instance (w : String) : Uniform (objectsOf w) := by unfold objectsOf; infer_instance

instance (w : String) : Uniform (symbolsOf w) := by unfold symbolsOf; infer_instance

instance : Uniform playerEffect := by unfold playerEffect; infer_instance

instance : Uniform damage := by unfold damage; infer_instance

instance : Uniform sign := by unfold sign; infer_instance

instance : Uniform bonus := by unfold bonus; infer_instance

instance : Uniform cardEffect := by unfold cardEffect; infer_instance

/-! ### Where clauses end -/

/-- Tokens before which the last part of a clause ends, whatever it is: the mark after a list of
clauses, or what joins two effects. -/
def Ends (ks : List TokenKind) : Prop :=
  headKind ks = .mark '.' ∨ headKind ks = .mark ':' ∨ ∃ rest, ks = .mark ',' :: .word "then" :: rest

theorem furtherItems_then {α : Type} {item : Parser α} [item.Uniform] {rest : List TokenKind}
    (h : item.reads (.word "then" :: rest) = none) :
    (furtherItems ["and", "or"] item).reads (.mark ',' :: .word "then" :: rest) = none :=
  furtherItems_none (by simp [h]) (by simp)

theorem Closes.of_ends (room : Nat) (o : Opening) {ks : List TokenKind} (h : Ends ks) :
    Closes room o ks := by
  obtain stop | stop | ⟨rest, rfl⟩ := h
  · exact .of_halts room o (by rw [stop]; rfl)
  · exact .of_halts room o (by rw [stop]; rfl)
  · exact .of_comma room o (fun k => by cases k <;> simp [Keyword.word]) fun depth _ =>
      furtherItems_then (alternative_none _ rfl)

/-! ### Players and zones -/

def startsPlayer (k : TokenKind) : Bool :=
  [TokenKind.word "each", .word "you", .word "your", .word "its"].contains k

theorem playerAlternative_none {ks : List TokenKind} (h : startsPlayer (headKind ks) = false) :
    playerAlternative.reads ks = none := by
  simp only [startsPlayer, List.contains_cons, List.contains_nil, Bool.or_false,
    Bool.or_eq_false_iff, beq_eq_false_iff_ne] at h
  simp [playerAlternative, word_none h.1, word_none h.2.1, word_none h.2.2.1, word_none h.2.2.2]

theorem playerMatch_none {ks : List TokenKind} (h : startsPlayer (headKind ks) = false) :
    playerMatch.reads ks = none := by
  simp [playerMatch, enumeration, playerAlternative_none h]

theorem reads_playerAlternative (a : PlayerAlternative) (ks : List TokenKind) :
    playerAlternative.reads (a.spelled ++ ks) = some (a, ks) := by
  cases a <;> simp [playerAlternative, PlayerAlternative.spelled]

theorem furtherPlayers_none {ks : List TokenKind} (comma : headKind ks ≠ .mark ',')
    (conjunction : ∀ w ∈ ["and", "or"], headKind ks ≠ .word w) :
    (furtherItems ["and", "or"] playerAlternative).reads ks = none :=
  furtherItems_none (by simp [mark_none comma]) conjunction

theorem furtherPlayers_ends {ks : List TokenKind} (h : Ends ks) :
    (furtherItems ["and", "or"] playerAlternative).reads ks = none := by
  obtain stop | stop | ⟨rest, rfl⟩ := h
  · exact furtherPlayers_none (by simp [stop]) (by simp [stop])
  · exact furtherPlayers_none (by simp [stop]) (by simp [stop])
  · exact furtherItems_then (playerAlternative_none rfl)

theorem reads_playerMatch {m : PlayerMatch} (nonempty : m ≠ []) (after : List TokenKind)
    (stops : (furtherItems ["and", "or"] playerAlternative).reads after = none) :
    playerMatch.reads (m.spelled ++ after) = some (m, after) :=
  reads_enumeration (by simp) nonempty (fun _ a _ _ => reads_playerAlternative a _) fun _ => stops

theorem reads_cardMatch {m : CardMatch} (after : List TokenKind) (printable : m.IsPrintable)
    (clear : m.isClear) (closes : Closes (maxMatchDepth - 1) m.opening after) :
    cardMatch.reads (m.spelled ++ after) = some (m, after) :=
  reads_cardMatchWithin maxMatchDepth m after printable clear closes

theorem startsPlayer_of_startsMatch {k : TokenKind} (h : startsMatch k) :
    startsPlayer k = false :=
  contains_of_starts h (by decide)

theorem zone_none {ks : List TokenKind} (h : ∀ z : Zone, headKind ks ≠ .word z.word)
    (your : headKind ks ≠ .word "your") (the : headKind ks ≠ .word "the") :
    zone.reads ks = none := by
  have article : (oneOf ["your", "the"]).reads ks = none := oneOf_none (by simp [your, the])
  have word : (wordAs "zone" Zone.ofWord?).reads ks = none :=
    wordAs_none fun w e => List.find?_eq_none.2 fun z _ same => h z (by rw [e, eq_of_beq same])
  simp [zone, article, word]

theorem reads_zoneMatch {m : ZoneMatch} (nonempty : m ≠ []) (after : List TokenKind)
    (stops : zone.reads after = none) : zoneMatch.reads (m.spelled ++ after) = some (m, after) := by
  have each (z : Zone) (ks : List TokenKind) :
      zone.reads ([.word z.word] ++ ks) = some (z, ks) := by
    have noArticle : z.word ≠ "your" ∧ z.word ≠ "the" := by cases z <;> decide
    simp [zone, noArticle, Zone.ofWord?_word]
  obtain ⟨z, rest, rfl⟩ := List.exists_cons_of_ne_nil nonempty
  have others := readsAll_flatMap_of_reads rest each (fun _ => List.cons_ne_nil _ _) stops
  rw [← List.map_eq_flatMap] at others
  have first := each z (rest.map (fun z => .word z.word) ++ after)
  rw [List.singleton_append] at first
  simp [zoneMatch, many1, ZoneMatch.spelled, first, others]

/-! ### Effects of players -/

theorem reads_costSymbol (c : CostSymbol) (ks : List TokenKind) :
    costSymbol.reads (c.spelled ++ ks) = some (c, ks) := by
  cases c with
  | essence e => simp [costSymbol, CostSymbol.spelled, CostSymbol.kind, Essence.ofSymbol?_symbol]
  | activate =>
    have : Essence.ofSymbol? "q" = none := by decide
    simp [costSymbol, CostSymbol.spelled, CostSymbol.kind, this]
  | deactivate =>
    have : Essence.ofSymbol? "t" = none := by decide
    simp [costSymbol, CostSymbol.spelled, CostSymbol.kind, this]
  | generic q =>
    have essence : (wordAs "essence" Essence.ofSymbol?).reads
        (q.kind :: .mark '\x7d' :: ks) = none :=
      wordAs_none fun w e => by cases q <;> cases e <;> decide
    have other (w : String) (h : w ≠ "a") (h' : w ≠ "x") : q.kind ≠ .word w := by
      cases q <;> simp [Quantity.kind, Ne.symm h, Ne.symm h']
    simp [costSymbol, CostSymbol.spelled, CostSymbol.kind, essence, other, reads_quantity]

theorem costSymbol_none {ks : List TokenKind} (h : headKind ks ≠ .mark '\x7b') :
    costSymbol.reads ks = none := by
  simp [costSymbol, mark_none h]

theorem reads_costSymbols {cs : List CostSymbol} (nonempty : cs ≠ []) {after : List TokenKind}
    (stops : headKind after ≠ .mark '\x7b') :
    (many1 costSymbol).reads (cs.flatMap CostSymbol.spelled ++ after) = some (cs, after) := by
  obtain ⟨c, rest, rfl⟩ := List.exists_cons_of_ne_nil nonempty
  have others := readsAll_flatMap_of_reads rest reads_costSymbol
    (fun c => by simp [CostSymbol.spelled]) (costSymbol_none stops)
  simp [many1, List.append_assoc, reads_costSymbol, others]

def EffectCloses : PlayerEffect → List TokenKind → Prop
  | .destroy m, after | .activate m, after | .deactivate m, after | .sacrifice m, after
  | .discard _ (some m), after => Closes (maxMatchDepth - 1) m.opening after
  | .discard _ none, after => startsMatch (headKind after) = false
  | .add _, after | .payEssence _, after => headKind after ≠ .mark '\x7b'
  | .shuffle _ _, after | .look _ _, after => zone.reads after = none
  | .put _ _ _ _ _ deactivated, after =>
    zone.reads after = none ∧ headKind after ≠ .word "in" ∧
      (deactivated = false → headKind after ≠ .word "deactivated")
  | _, _ => True

theorem reads_verb (w v : String) (ks : List TokenKind) :
    (verb w).reads (.word v :: ks) = if v ∈ [w, w ++ "s"] then some ((), ks) else none :=
  reads_oneOf_word _ v ks

/-- The alternatives for an effect of players in order, each with its verb. -/
def effectAlternatives : List (String × Parser PlayerEffect) :=
  [("draw", draw), ("create", createToken),
    ("destroy", do return .destroy (← objectsOf "destroy")),
    ("add", do return .add (← symbolsOf "add")),
    ("gain", do return .gainLife (← lifeAmount (verb "gain"))),
    ("lose", do return .loseLife (← lifeAmount (verb "lose"))),
    ("discard", discard), ("shuffle", shuffle), ("take", extraTurn), ("look", look), ("put", put),
    ("activate", do return .activate (← objectsOf "activate")),
    ("deactivate", do return .deactivate (← objectsOf "deactivate")),
    ("sacrifice", do return .sacrifice (← objectsOf "sacrifice")),
    ("spend", do return .payEssence (← symbolsOf "spend")),
    ("spend", do return .payLife (← lifeAmount (verb "spend")))]

theorem findSome?_cons_or {α β : Type} (f : α → Option β) (a : α) (as : List α) :
    (a :: as).findSome? f = (f a).or (as.findSome? f) := by
  cases found : f a <;> simp [found]

theorem playerEffect_reads (ks : List TokenKind) :
    playerEffect.reads ks = effectAlternatives.findSome? fun a => a.2.reads ks := by
  simp only [playerEffect, reads_orElse, effectAlternatives, findSome?_cons_or, List.findSome?_nil,
    Option.or_none]

theorem listedEffect_none {a : String × Parser PlayerEffect} (listed : a ∈ effectAlternatives)
    {ks : List TokenKind} (h : (verb a.1).reads ks = none) : a.2.reads ks = none := by
  simp only [effectAlternatives, List.mem_cons, List.not_mem_nil, or_false] at listed
  obtain rfl | rfl | rfl | rfl | rfl | rfl | rfl | rfl | rfl | rfl | rfl | rfl | rfl | rfl | rfl |
    rfl := listed <;>
  simp_all [draw, createToken, objectsOf, symbolsOf, lifeAmount, discard, shuffle, extraTurn, look,
    put]

theorem reads_nthEffect (i : Nat) {a : String × Parser PlayerEffect}
    {ks after : List TokenKind} {e : PlayerEffect} (here : effectAlternatives[i]? = some a)
    (earlier : ∀ b ∈ effectAlternatives.take i, b.2.reads ks = none)
    (read : a.2.reads ks = some (e, after)) : playerEffect.reads ks = some (e, after) := by
  obtain ⟨inside, rfl⟩ := List.getElem?_eq_some_iff.1 here
  rw [playerEffect_reads, ← List.take_append_drop i effectAlternatives, List.findSome?_append,
    List.findSome?_eq_none_iff.2 earlier, ← List.getElem_cons_drop inside, findSome?_cons_or, read]
  rfl

theorem earlier_none {i : Nat} {v : String} {ks : List TokenKind}
    (other : ∀ w ∈ (effectAlternatives.take i).map (·.1), v ∉ [w, w ++ "s"]) :
    ∀ b ∈ effectAlternatives.take i, b.2.reads (.word v :: ks) = none := by
  intro b before
  refine listedEffect_none (List.mem_of_mem_take before) ?_
  rw [reads_verb, if_neg (other b.1 (List.mem_map_of_mem before))]

theorem noun_listed (noun : String) (q : Quantity) :
    noun ++ PlayerEffect.pluralEnding q ∈ [noun, noun ++ "s"] := by
  rcases PlayerEffect.pluralEnding_eq q with ending | ending <;> simp [ending]

theorem reads_noun {noun : String} {ws : List String} (q : Quantity) (ks : List TokenKind)
    (h : ws = [noun, noun ++ "s"]) :
    (oneOf ws).reads (.word (noun ++ PlayerEffect.pluralEnding q) :: ks) = some ((), ks) := by
  rw [reads_oneOf_word, h, if_pos (noun_listed noun q)]

theorem reads_subtype (s : CardSubtype) (ks : List TokenKind) :
    subtype.reads ([.word s.word] ++ ks) = some (s, ks) := by
  simp [subtype, CardSubtype.ofWord?_word]

theorem reads_tokenKind {k : KindWord} (h : k.kind ≠ .token) (ks : List TokenKind) :
    tokenKind.reads ([.word k.text] ++ ks) = some (k, ks) := by
  simp [tokenKind, reads_kindWord, h]

section CreatedToken

variable (n : Quantity) (kinds : List KindWord) (subtypes : List CardSubtype)
  (after : List TokenKind)

theorem readsAll_subtype :
    subtype.readsAll (subtypes.map (fun s => .word s.word)
        ++ .word ("token" ++ PlayerEffect.pluralEnding n) :: after) =
      (subtypes, .word ("token" ++ PlayerEffect.pluralEnding n) :: after) := by
  rw [List.map_eq_flatMap]
  refine readsAll_flatMap_of_reads subtypes reads_subtype (fun _ => List.cons_ne_nil _ _) ?_
  rcases PlayerEffect.pluralEnding_eq n with ending | ending <;> rw [ending] <;>
    exact wordAs_none fun w e => by cases e; decide

theorem readsAll_tokenKind (others : ∀ k ∈ kinds, k.kind ≠ .token) :
    tokenKind.readsAll (kinds.map (fun k => .word k.text) ++ (subtypes.map (fun s => .word s.word)
        ++ .word ("token" ++ PlayerEffect.pluralEnding n) :: after)) =
      (kinds, subtypes.map (fun s => .word s.word)
        ++ .word ("token" ++ PlayerEffect.pluralEnding n) :: after) := by
  rw [List.map_eq_flatMap]
  refine readsAll_flatMap (fun before k rest split => ?_) (fun _ _ => List.cons_ne_nil _ _) ?_
  · exact reads_tokenKind (others k (by rw [split]; simp)) _
  · cases subtypes with
    | nil =>
      have word : "token" ++ PlayerEffect.pluralEnding n = KindWord.text ⟨.token, false⟩ ∨
          "token" ++ PlayerEffect.pluralEnding n = KindWord.text ⟨.token, true⟩ := by
        rcases PlayerEffect.pluralEnding_eq n with ending | ending <;> rw [ending] <;> decide
      rcases word with word | word <;> simp [tokenKind, word, reads_kindWord]
    | cons s rest =>
      have noKind : kindWord.reads (.word s.word :: (rest.map (fun s => .word s.word)
          ++ .word ("token" ++ PlayerEffect.pluralEnding n) :: after)) = none :=
        wordAs_none fun w e => by cases s <;> cases e <;> decide
      simp [tokenKind, noKind]

theorem reads_createToken (stats : Option Stats) (others : ∀ k ∈ kinds, k.kind ≠ .token) :
    createToken.reads ((PlayerEffect.token n stats kinds subtypes).spelled ++ after) =
      some (.token n stats kinds subtypes, after) := by
  have noun (ks : List TokenKind) : (oneOf ["token", "tokens"]).reads
      (.word ("token" ++ PlayerEffect.pluralEnding n) :: ks) = some ((), ks) :=
    reads_noun n ks rfl
  have kindWords := readsAll_tokenKind n kinds subtypes after others
  have subtypeWords := readsAll_subtype n subtypes after
  cases stats with
  | some s =>
    simp [createToken, PlayerEffect.spelled, reads_verb, reads_quantity, kindWords,
      subtypeWords, noun]
  | none =>
    have noStats : Grammar.stats.reads (kinds.map (fun k => .word k.text)
        ++ (subtypes.map (fun s => .word s.word)
        ++ .word ("token" ++ PlayerEffect.pluralEnding n) :: after)) = none := by
      have noNumber : quantity.reads (kinds.map (fun k => .word k.text)
          ++ (subtypes.map (fun s => .word s.word)
          ++ .word ("token" ++ PlayerEffect.pluralEnding n) :: after)) = none := by
        apply quantity_none
        obtain _ | ⟨⟨k, plural⟩, kinds⟩ := kinds
        · obtain _ | ⟨s, subtypes⟩ := subtypes
          · rcases PlayerEffect.pluralEnding_eq n with ending | ending <;> rw [ending] <;> rfl
          · cases s <;> rfl
        · cases k <;> cases plural <;> rfl
      simp [Grammar.stats, noNumber]
    simp [createToken, PlayerEffect.spelled, reads_verb, reads_quantity, kindWords, subtypeWords,
      noun, noStats]

end CreatedToken

theorem reads_putPosition (p : PutPosition) (ks : List TokenKind) :
    putPosition.reads (PlayerEffect.positionSpelled p ++ ks) = some (p, ks) := by
  cases p <;> simp [putPosition, PlayerEffect.positionSpelled]

theorem reads_shuffle {objects : Option CardMatch} {destination : ZoneMatch}
    (after : List TokenKind) (printable : ∀ m ∈ objects, CardMatch.IsPrintable m)
    (clear : ∀ m ∈ objects, CardMatch.isClear m) (nonempty : destination ≠ [])
    (closes : zone.reads after = none) :
    shuffle.reads ((PlayerEffect.shuffle objects destination).spelled ++ after) =
      some (.shuffle objects destination, after) := by
  have places := reads_zoneMatch nonempty after closes
  cases objects with
  | some m =>
    have cards := reads_cardMatch (.word "into" :: (destination.spelled ++ after))
      (printable m rfl) (clear m rfl) (.of_halts _ _ rfl)
    simp [shuffle, shuffled, PlayerEffect.spelled, PlayerEffect.shuffledSpelled, reads_verb, cards,
      places]
  | none =>
    have noMatch : cardMatch.reads (destination.spelled ++ after) = none := by
      obtain ⟨z, rest, rfl⟩ := List.exists_cons_of_ne_nil nonempty
      exact cardMatch_none (by cases z <;> rfl)
    simp [shuffle, shuffled, PlayerEffect.spelled, PlayerEffect.shuffledSpelled, reads_verb,
      noMatch, places]

theorem reads_flag_words (present : Bool) (ws : List String) (ks : List TokenKind)
    (absent : present = false → (words ws).reads ks = none) :
    (flag (words ws)).reads (PlayerEffect.wordsIf present ws ++ ks) = some (present, ks) := by
  cases present with
  | false => simp [PlayerEffect.wordsIf, absent rfl]
  | true =>
    have all (ws : List String) : (words ws).reads (ws.map .word ++ ks) = some ((), ks) := by
      induction ws with
      | nil => simp
      | cons w ws ih => simp [ih]
    simp [PlayerEffect.wordsIf, all]

theorem reads_put {objects : CardMatch} {position : PutPosition} {destination : ZoneMatch}
    {anyOrder randomOrder deactivated : Bool} {after : List TokenKind}
    (printable : objects.IsPrintable) (clear : objects.isClear) (nonempty : destination ≠ [])
    (closes : EffectCloses
      (.put objects position destination anyOrder randomOrder deactivated) after) :
    put.reads ((PlayerEffect.put objects position destination anyOrder randomOrder
        deactivated).spelled ++ after) =
      some (.put objects position destination anyOrder randomOrder deactivated, after) := by
  obtain ⟨noZone, noOrder, noWord⟩ := closes
  have lastFlag : (flag (word "deactivated")).reads
      (PlayerEffect.wordsIf deactivated ["deactivated"] ++ after) = some (deactivated, after) := by
    cases deactivated with
    | false => simp [PlayerEffect.wordsIf, word_none (noWord rfl)]
    | true => simp [PlayerEffect.wordsIf]
  have randomFlag := reads_flag_words randomOrder ["in", "random", "order"]
    (PlayerEffect.wordsIf deactivated ["deactivated"] ++ after) fun _ => by
      cases deactivated <;> simp [PlayerEffect.wordsIf, word_none noOrder]
  have anyFlag := reads_flag_words anyOrder ["in", "any", "order"]
    (PlayerEffect.wordsIf randomOrder ["in", "random", "order"]
      ++ (PlayerEffect.wordsIf deactivated ["deactivated"] ++ after)) fun _ => by
      cases randomOrder <;> cases deactivated <;> simp [PlayerEffect.wordsIf, word_none noOrder]
  have noOrderZone (ks : List TokenKind) : zone.reads (.word "in" :: ks) = none :=
    zone_none (fun z => by cases z <;> simp [Zone.word]) (by simp) (by simp)
  have noDeactivatedZone (ks : List TokenKind) : zone.reads (.word "deactivated" :: ks) = none :=
    zone_none (fun z => by cases z <;> simp [Zone.word]) (by simp) (by simp)
  have places := reads_zoneMatch nonempty
    (PlayerEffect.wordsIf anyOrder ["in", "any", "order"]
      ++ (PlayerEffect.wordsIf randomOrder ["in", "random", "order"]
      ++ (PlayerEffect.wordsIf deactivated ["deactivated"] ++ after))) (by
      cases anyOrder <;> cases randomOrder <;> cases deactivated <;>
        simp [PlayerEffect.wordsIf, noZone, noOrderZone, noDeactivatedZone])
  have cards := reads_cardMatch (PlayerEffect.positionSpelled position
    ++ (destination.spelled ++ (PlayerEffect.wordsIf anyOrder ["in", "any", "order"]
      ++ (PlayerEffect.wordsIf randomOrder ["in", "random", "order"]
      ++ (PlayerEffect.wordsIf deactivated ["deactivated"] ++ after))))) printable clear
      (.of_halts _ _ (by cases position <;> rfl))
  simp [-reads_flag, put, PlayerEffect.spelled, reads_verb, cards, reads_putPosition, places,
    anyFlag, randomFlag, lastFlag]

theorem reads_objectsOf (w : String) {m : CardMatch} {after : List TokenKind}
    (printable : m.IsPrintable) (clear : m.isClear)
    (closes : Closes (maxMatchDepth - 1) m.opening after) :
    (objectsOf w).reads (.word w :: (m.spelled ++ after)) = some (m, after) := by
  simp [objectsOf, reads_verb, reads_cardMatch after printable clear closes]

theorem reads_symbolsOf (w : String) {cs : List CostSymbol} {after : List TokenKind}
    (nonempty : cs ≠ []) (closes : headKind after ≠ .mark '\x7b') :
    (symbolsOf w).reads (.word w :: (cs.flatMap CostSymbol.spelled ++ after)) =
      some (cs, after) := by
  simp [symbolsOf, reads_verb, reads_costSymbols nonempty closes]

theorem reads_lifeAmount (w : String) (n : Quantity) (after : List TokenKind) :
    (lifeAmount (verb w)).reads (.word w :: n.kind :: .word "life" :: after) = some (n, after) := by
  simp [lifeAmount, reads_verb, reads_quantity]

theorem reads_discard {n : Quantity} {filter : Option CardMatch} {after : List TokenKind}
    (printable : ∀ m ∈ filter, CardMatch.IsPrintable m) (clear : ∀ m ∈ filter, CardMatch.isClear m)
    (closes : EffectCloses (.discard n filter) after) :
    discard.reads ((PlayerEffect.discard n filter).spelled ++ after) =
      some (.discard n filter, after) := by
  cases filter with
  | some m =>
    simp [discard, PlayerEffect.spelled, reads_verb, reads_quantity,
      reads_cardMatch after (printable m rfl) (clear m rfl) closes]
  | none =>
    have noMatch : cardMatch.reads after = none := cardMatch_none closes
    simp [discard, PlayerEffect.spelled, reads_verb, reads_quantity, noMatch]

theorem reads_draw (n : Quantity) (after : List TokenKind) :
    draw.reads ((PlayerEffect.draw n).spelled ++ after) = some (.draw n, after) := by
  have noun (ks : List TokenKind) : (oneOf ["card", "cards"]).reads
      (.word ("card" ++ PlayerEffect.pluralEnding n) :: ks) = some ((), ks) := reads_noun n ks rfl
  simp [draw, PlayerEffect.spelled, reads_verb, reads_quantity, noun]

theorem reads_extraTurn (n : Quantity) (after : List TokenKind) :
    extraTurn.reads ((PlayerEffect.extraTurn n).spelled ++ after) =
      some (.extraTurn n, after) := by
  have noun (ks : List TokenKind) : (oneOf ["turn", "turns"]).reads
      (.word ("turn" ++ PlayerEffect.pluralEnding n) :: ks) = some ((), ks) := reads_noun n ks rfl
  simp [extraTurn, PlayerEffect.spelled, reads_verb, reads_quantity, noun]

theorem reads_look (n : Quantity) {destination : ZoneMatch} {after : List TokenKind}
    (nonempty : destination ≠ []) (closes : zone.reads after = none) :
    look.reads ((PlayerEffect.look n destination).spelled ++ after) =
      some (.look n destination, after) := by
  simp [look, PlayerEffect.spelled, reads_verb, reads_quantity,
    reads_zoneMatch nonempty after closes]

theorem payEssence_none (n : Quantity) (ks : List TokenKind) :
    (symbolsOf "spend").reads (.word "spend" :: n.kind :: ks) = none := by
  have noSymbol : costSymbol.reads (n.kind :: ks) = none :=
    costSymbol_none (by cases n <;> simp [Quantity.kind])
  simp [symbolsOf, many1, reads_verb, noSymbol]

theorem reads_playerEffect {e : PlayerEffect} {after : List TokenKind} (printable : e.Printable)
    (clear : e.isClear) (closes : EffectCloses e after) :
    playerEffect.reads (e.spelled ++ after) = some (e, after) := by
  cases e with
  | draw n => exact reads_nthEffect 0 rfl (earlier_none (by decide)) (reads_draw n after)
  | token n stats kinds subtypes =>
    exact reads_nthEffect 1 rfl (earlier_none (by decide))
      (reads_createToken n kinds subtypes after stats printable.2.2)
  | destroy m =>
    exact reads_nthEffect 2 rfl (earlier_none (by decide))
      (by simp [PlayerEffect.spelled, reads_objectsOf "destroy" printable clear closes])
  | add essence =>
    exact reads_nthEffect 3 rfl (earlier_none (by decide))
      (by simp [PlayerEffect.spelled, reads_symbolsOf "add" printable.1 closes])
  | gainLife n =>
    exact reads_nthEffect 4 rfl (earlier_none (by decide))
      (by simp [PlayerEffect.spelled, reads_lifeAmount "gain" n after])
  | loseLife n =>
    exact reads_nthEffect 5 rfl (earlier_none (by decide))
      (by simp [PlayerEffect.spelled, reads_lifeAmount "lose" n after])
  | discard n filter =>
    exact reads_nthEffect 6 rfl (earlier_none (by decide))
      (reads_discard printable.2 (fun m own => by cases own; exact clear) closes)
  | shuffle objects zone =>
    exact reads_nthEffect 7 rfl (earlier_none (by decide))
      (reads_shuffle after printable.1 (fun m own => by cases own; exact clear) printable.2 closes)
  | extraTurn n =>
    exact reads_nthEffect 8 rfl (earlier_none (by decide)) (reads_extraTurn n after)
  | look n zone =>
    exact reads_nthEffect 9 rfl (earlier_none (by decide))
      (reads_look n printable.2 closes)
  | put objects position zone anyOrder randomOrder deactivated =>
    exact reads_nthEffect 10 rfl (earlier_none (by decide))
      (reads_put printable.1 clear printable.2 closes)
  | activate m =>
    exact reads_nthEffect 11 rfl (earlier_none (by decide))
      (by simp [PlayerEffect.spelled, reads_objectsOf "activate" printable clear closes])
  | deactivate m =>
    exact reads_nthEffect 12 rfl (earlier_none (by decide))
      (by simp [PlayerEffect.spelled, reads_objectsOf "deactivate" printable clear closes])
  | sacrifice m =>
    exact reads_nthEffect 13 rfl (earlier_none (by decide))
      (by simp [PlayerEffect.spelled, reads_objectsOf "sacrifice" printable clear closes])
  | payEssence costs =>
    exact reads_nthEffect 14 rfl (earlier_none (by decide))
      (by simp [PlayerEffect.spelled, reads_symbolsOf "spend" printable.1 closes])
  | payLife n =>
    -- the alternative before this one has the same verb
    refine reads_nthEffect 15 rfl (fun b before => ?_)
      (by simp [PlayerEffect.spelled, reads_lifeAmount "spend" n after])
    obtain before | rfl : b ∈ effectAlternatives.take 14 ∨
        b = ("spend", do return .payEssence (← symbolsOf "spend")) := by
      simpa [effectAlternatives, or_assoc] using before
    · exact earlier_none (by decide) b before
    · simp [PlayerEffect.spelled, payEssence_none]

theorem EffectCloses.of_ends (e : PlayerEffect) {ks : List TokenKind} (h : Ends ks) :
    EffectCloses e ks := by
  have noZone : zone.reads ks = none := by
    obtain stop | stop | ⟨rest, rfl⟩ := h
    · exact zone_none (by simp [stop]) (by simp [stop]) (by simp [stop])
    · exact zone_none (by simp [stop]) (by simp [stop]) (by simp [stop])
    · exact zone_none (by simp) (by simp) (by simp)
  have others {k : TokenKind} (dot : k ≠ .mark '.') (colon : k ≠ .mark ':')
    (comma : k ≠ .mark ',') :
      headKind ks ≠ k := by
    obtain stop | stop | ⟨rest, rfl⟩ := h
    · rw [stop]; exact Ne.symm dot
    · rw [stop]; exact Ne.symm colon
    · exact Ne.symm comma
  have noMatch : startsMatch (headKind ks) = false := by
    obtain stop | stop | ⟨rest, rfl⟩ := h
    · rw [stop]; rfl
    · rw [stop]; rfl
    · rfl
  have noOrder : headKind ks ≠ .word "in" := others nofun nofun nofun
  have noWord : headKind ks ≠ .word "deactivated" := others nofun nofun nofun
  have noSymbol : headKind ks ≠ .mark '\x7b' := others (by simp) (by simp) (by simp)
  cases e with
  | discard n filter =>
    cases filter with
    | some m => exact Closes.of_ends _ _ h
    | none => exact noMatch
  | put => exact ⟨noZone, noOrder, fun _ => noWord⟩
  | destroy | activate | deactivate | sacrifice => exact Closes.of_ends _ _ h
  | shuffle | look => exact noZone
  | add | payEssence => exact noSymbol
  | draw | token | gainLife | loseLife | payLife | extraTurn => trivial

def playerVerbs : List String :=
  ["draw", "create", "destroy", "add", "gain", "lose", "discard", "shuffle", "take", "look", "put",
    "activate", "deactivate", "sacrifice", "spend"]

def startsPlayerEffect (k : TokenKind) : Bool :=
  (playerVerbs.flatMap fun v => [TokenKind.word v, .word (v ++ "s")]).contains k

theorem playerEffect_none {ks : List TokenKind} (h : startsPlayerEffect (headKind ks) = false) :
    playerEffect.reads ks = none := by
  have noVerb (v : String) (listed : v ∈ playerVerbs) : (verb v).reads ks = none := by
    refine oneOf_none fun w own e => Bool.eq_false_iff.1 h (List.contains_iff_mem.2 ?_)
    exact List.mem_flatMap.2 ⟨v, listed, by simpa [e] using own⟩
  have listed : ∀ w ∈ effectAlternatives.map (·.1), w ∈ playerVerbs := by decide
  rw [playerEffect_reads, List.findSome?_eq_none_iff]
  exact fun a mem => listedEffect_none mem (noVerb a.1 (listed a.1 (List.mem_map_of_mem mem)))

/-! ### Effects of cards -/

def AnyCloses : AnyMatch → List TokenKind → Prop
  | .player _, after => (furtherItems ["and", "or"] playerAlternative).reads after = none
  | .card m, after => Closes (maxMatchDepth - 1) m.opening after
  | .anyTarget, _ => True

theorem AnyCloses.of_ends (m : AnyMatch) {ks : List TokenKind} (h : Ends ks) : AnyCloses m ks := by
  cases m with
  | player m => exact furtherPlayers_ends h
  | card m => exact Closes.of_ends _ _ h
  | anyTarget => trivial

theorem reads_anyMatch {m : AnyMatch} {after : List TokenKind} (printable : m.Printable)
    (clear : m.isClear) (closes : AnyCloses m after) :
    anyMatch.reads (m.spelled ++ after) = some (m, after) := by
  cases m with
  | player m => simp [anyMatch, AnyMatch.spelled, reads_playerMatch printable after closes]
  | card m =>
    have noPlayer : playerMatch.reads (m.spelled ++ after) = none :=
      playerMatch_none (startsPlayer_of_startsMatch (startsMatch_spelled printable.nonempty after))
    simp [anyMatch, AnyMatch.spelled, noPlayer, reads_cardMatch after printable clear closes]
  | anyTarget =>
    have noPlayer : playerMatch.reads (.word "any" :: .word "target" :: after) = none :=
      playerMatch_none rfl
    have noCard : cardMatch.reads (.word "any" :: .word "target" :: after) = none :=
      cardMatch_none rfl
    simp [anyMatch, AnyMatch.spelled, noPlayer, noCard]

def CardEffectCloses : CardEffect → List TokenKind → Prop
  | .damage _ target, after => AnyCloses target after
  | _, _ => True

theorem CardEffectCloses.of_ends (e : CardEffect) {ks : List TokenKind} (h : Ends ks) :
    CardEffectCloses e ks := by
  cases e with
  | damage n target => exact AnyCloses.of_ends target h
  | gets | attack => trivial

theorem reads_sign (s : Sign) (ks : List TokenKind) : sign.reads (s.kind :: ks) = some (s, ks) := by
  cases s <;> simp [sign, Sign.kind]

theorem reads_cardEffect {e : CardEffect} {after : List TokenKind} (printable : e.Printable)
    (clear : e.isClear) (closes : CardEffectCloses e after) :
    cardEffect.reads (e.spelled ++ after) = some (e, after) := by
  cases e with
  | damage n target =>
    simp [cardEffect, damage, CardEffect.spelled, reads_verb, reads_quantity,
      reads_anyMatch printable.2 clear closes]
  | gets powerSign power healthSign health =>
    simp [cardEffect, damage, bonus, CardEffect.spelled, reads_verb, reads_quantity, reads_sign]
  | attack => exact nomatch printable

def startsCardEffect (k : TokenKind) : Bool :=
  [TokenKind.word "deal", .word "deals", .word "get", .word "gets"].contains k

theorem cardEffect_none {ks : List TokenKind} (h : startsCardEffect (headKind ks) = false) :
    cardEffect.reads ks = none := by
  simp only [startsCardEffect, List.contains_cons, List.contains_nil, Bool.or_false,
    Bool.or_eq_false_iff, beq_eq_false_iff_ne] at h
  have noDeal : (verb "deal").reads ks = none := oneOf_none (by simp [h])
  have noGet : (verb "get").reads ks = none := oneOf_none (by simp [h])
  simp [cardEffect, damage, bonus, noDeal, noGet]

end CardGame.Grammar
