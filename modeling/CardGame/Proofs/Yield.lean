import CardGame.Proofs.CardReading

/-!
What parsing yields. Whatever the parsers of cards return can be printed: its numbers are not
negative, its lists hold something where they have to, and its matches are only as deep as parsers
go.
-/

namespace CardGame.Grammar

open CardGame.Grammar.Parser
open Text (TokenKind)

/-- Kinds of tokens among which no number is negative. -/
def Unsigned (ks : List TokenKind) : Prop :=
  ∀ n, .number n ∈ ks → 0 ≤ n.toInt

theorem Unsigned.of_suffix {ks rest : List TokenKind} (h : Unsigned ks) (later : rest <:+ ks) :
    Unsigned rest :=
  fun n mem => h n (later.subset mem)

/-- A parser that returns only values with a property, where no number is negative. -/
structure Yields {α : Type} (p : Parser α) (P : α → Prop) : Prop where
  holds : ∀ {ks a rest}, Unsigned ks → p.reads ks = some (a, rest) → P a

namespace Yields

variable {α β : Type} {p q : Parser α} {f : α → Parser β} {P Q : α → Prop} {R : β → Prop}

theorem any (p : Parser α) : Yields p fun _ => True :=
  ⟨fun _ _ => trivial⟩

theorem imp (h : Yields p P) (weaker : ∀ a, P a → Q a) : Yields p Q :=
  ⟨fun numbers read => weaker _ (h.holds numbers read)⟩

theorem pure {a : α} (h : P a) : Yields (Pure.pure a) P := by
  refine ⟨fun numbers read => ?_⟩
  obtain ⟨rfl, -⟩ := parts_of_pure read
  exact h

theorem bind [p.Uniform] [∀ a, (f a).Uniform] (first : Yields p P)
    (next : ∀ a, P a → Yields (f a) R) : Yields (p >>= f) R := by
  refine ⟨fun numbers read => ?_⟩
  obtain ⟨a, middle, own, later⟩ := parts_of_bind read
  exact (next a (first.holds numbers own)).holds (numbers.of_suffix (reads_suffix own)) later

theorem orElse [p.Uniform] [q.Uniform] (first : Yields p P) (second : Yields q P) :
    Yields (p <|> q) P := by
  refine ⟨fun numbers read => ?_⟩
  rw [reads_orElse] at read
  exact (Option.or_eq_some_iff.1 read).elim (first.holds numbers) fun h => second.holds numbers h.2

theorem ite {c : Prop} [Decidable c] (first : Yields p P) (second : Yields q P) :
    Yields (if c then p else q) P := by
  split
  · exact first
  · exact second

theorem optional [p.Uniform] (h : Yields p P) : Yields (optional p) fun o => ∀ a ∈ o, P a := by
  refine ⟨fun numbers read a mem => ?_⟩
  obtain ⟨b, rfl, own⟩ | ⟨rfl, -, -⟩ := parts_of_optional read
  · rw [Option.mem_some_iff] at mem
    exact mem ▸ h.holds numbers own
  · contradiction

theorem readsAll [p.Uniform] (h : Yields p P) {ks : List TokenKind} (numbers : Unsigned ks) :
    ∀ a ∈ (p.readsAll ks).1, P a := by
  fun_induction p.readsAll ks with
  | case1 ks a rest own shorter ih =>
    exact List.forall_mem_cons.2 ⟨h.holds numbers own, ih (numbers.of_suffix (reads_suffix own))⟩
  | case2 => exact fun _ mem => nomatch mem
  | case3 => exact fun _ mem => nomatch mem

theorem many [p.Uniform] (h : Yields p P) : Yields (many p) fun as => ∀ a ∈ as, P a := by
  refine ⟨fun {ks as} _ numbers read => ?_⟩
  rw [reads_many] at read
  rw [show as = (p.readsAll ks).1 from congrArg Prod.fst (Option.some.inj read).symm]
  exact h.readsAll numbers

theorem many1 [p.Uniform] (h : Yields p P) : Yields (many1 p) fun as => as ≠ [] ∧ ∀ a ∈ as, P a :=
  .bind h fun _ first => .bind h.many fun _ rest =>
    .pure ⟨List.cons_ne_nil _ _, List.forall_mem_cons.2 ⟨first, rest⟩⟩

theorem enumeration [p.Uniform] (conjunctions : List String) (h : Yields p P) :
    Yields (enumeration conjunctions p) fun as => as ≠ [] ∧ ∀ a ∈ as, P a := by
  have further : Yields (furtherItems conjunctions p) fun as => ∀ a ∈ as, P a :=
    .bind (.many (.bind (.any _) fun _ _ => h)) fun _ middle => .bind (.any _) fun _ _ =>
      .bind h fun _ last => .pure (by
        simp only [List.mem_append, List.mem_singleton]
        rintro a (mem | rfl)
        · exact middle a mem
        · exact last)
  refine .bind h fun first own => .bind further.optional fun others rest => .pure ?_
  refine ⟨List.cons_ne_nil _ _, List.forall_mem_cons.2 ⟨own, fun a mem => ?_⟩⟩
  cases others with
  | none => exact absurd mem List.not_mem_nil
  | some as => exact rest as rfl a mem

theorem consuming [p.Uniform] (what : String) (h : Yields p P) : Yields (consuming what p) P :=
  ⟨fun numbers read => h.holds numbers (parts_of_consuming read).1⟩

end Yields

/-! ### Matches -/

theorem yields_quantity : Yields quantity Quantity.Printable := by
  refine ⟨fun {ks q rest} numbers read => ?_⟩
  rw [quantity, reads_token] at read
  obtain _ | ⟨k, ks⟩ := ks
  · cases read
  · cases k with
    | number n =>
      obtain ⟨rfl, -⟩ := Prod.mk.inj (Option.some.inj read)
      exact numbers n List.mem_cons_self
    | word w =>
      obtain ⟨q', accepted, same⟩ := Option.map_eq_some_iff.1 read
      obtain ⟨rfl, -⟩ := Prod.mk.inj same
      simp only [headKind_cons] at accepted
      split at accepted
      · cases accepted; trivial
      · split at accepted
        · cases accepted; trivial
        · cases accepted
    | mark | fault | endOfInput => cases read

theorem yields_stats : Yields stats Stats.Printable :=
  .bind yields_quantity fun _ power => .bind (.any _) fun _ _ =>
    .bind yields_quantity fun _ health => .pure ⟨power, health⟩

theorem yields_costSymbol : Yields costSymbol CostSymbol.Printable := by
  refine .bind (.any _) fun _ _ => .bind (P := CostSymbol.Printable) ?_ fun _ own =>
    .bind (.any _) fun _ _ => .pure own
  refine .orElse (.bind (.any _) fun _ _ => .pure trivial) (.orElse ?_ (.orElse ?_ ?_))
  · exact .bind (.any _) fun _ _ => .pure trivial
  · exact .bind (.any _) fun _ _ => .pure trivial
  · exact .bind yields_quantity fun _ own => .pure own

theorem yields_trait : Yields trait Trait.Printable := by
  have single {α : Type} (q : Parser α) [q.Uniform] {f : α → Trait}
      (simple : ∀ a, (f a).Printable) : Yields (q >>= fun a => Pure.pure (f a)) Trait.Printable :=
    .bind (.any q) fun a _ => .pure (simple a)
  refine .orElse (single color fun _ => trivial)
    (.orElse ?_ (.orElse (single kindWord fun _ => trivial)
    (.orElse ?_ (.orElse (single (word "activated") fun _ => trivial)
    (.orElse (single (word "deactivated") fun _ => trivial) ?_)))))
  · exact .bind (.any _) fun _ _ => single color fun _ => trivial
  · exact .bind (.any _) fun _ _ => single kindWord fun _ => trivial
  · exact .bind yields_stats fun _ own => .pure own

section Inner

variable {inner : Parser CardMatch} [inner.Uniform] {I : CardMatch → Prop} (yields : Yields inner I)

include yields

theorem yields_count : Yields (count inner) (Count.Printable I) := by
  refine .orElse ?_ (.orElse ?_ ?_)
  · exact .bind (.any _) fun _ _ => .bind yields fun _ own => .pure own
  · exact .bind yields fun _ own => .bind (.any _) fun _ _ => .bind (.any _) fun _ _ => .pure own
  · exact .bind yields_quantity fun _ own => .pure own

theorem yields_comparison : Yields (comparison inner) fun c => c.count.Printable I :=
  .bind (.any _) fun _ _ => .bind (yields_count yields) fun _ own =>
    .bind (.any _) fun _ _ => .pure own

theorem yields_having : Yields (having inner) (Having.Printable I) := by
  refine .bind (.any _) fun _ _ => .orElse ?_ ?_
  · exact .bind (.enumeration _ (.any keyword)) fun _ own => .pure own.1
  · exact .bind (.any _) fun _ _ => .bind (yields_comparison yields) fun _ own => .pure own

theorem yields_description : Yields (description inner) (CardFilter.Printable I) :=
  .bind (.any _) fun _ _ => .bind yields_trait.many fun _ traits => .bind (.any _) fun _ _ =>
    .bind (.any _) fun _ _ => .bind (yields_having yields).optional fun _ having =>
      .bind (.many (.bind (.any _) fun _ _ => yields)) fun _ targeting =>
        .pure ⟨traits, having, targeting⟩

theorem yields_alternative : Yields (alternative inner) (Alternative.Printable I) := by
  refine .orElse (.bind (.any _) fun _ _ => .pure trivial) (.orElse ?_ ?_)
  · exact .bind (.any _) fun _ _ => .pure trivial
  · exact .bind (.bind (.any _) fun _ _ => .consuming _ (yields_description yields)) fun _ own =>
      .pure own

end Inner

theorem yields_cardMatchWithin (room : Nat) :
    Yields (cardMatchWithin room) (CardMatch.Printable room) := by
  induction room with
  | zero => exact ⟨fun _ read => by cases read⟩
  | succ room ih => exact .enumeration _ (yields_alternative ih)

theorem yields_cardMatch : Yields cardMatch CardMatch.IsPrintable :=
  yields_cardMatchWithin maxMatchDepth

theorem yields_playerMatch : Yields playerMatch fun m => m ≠ [] :=
  .imp (.enumeration _ (.any playerAlternative)) fun _ own => own.1

theorem yields_anyMatch : Yields anyMatch AnyMatch.Printable := by
  refine .orElse ?_ (.orElse ?_ (.bind (.any _) fun _ _ => .pure trivial))
  · exact .bind yields_playerMatch fun _ own => .pure own
  · exact .bind yields_cardMatch fun _ own => .pure own

theorem yields_zoneMatch : Yields zoneMatch fun m => m ≠ [] :=
  .imp (.many1 (.any zone)) fun _ own => own.1

/-! ### Effects -/

theorem yields_objectsOf (w : String) : Yields (objectsOf w) CardMatch.IsPrintable :=
  .bind (.any _) fun _ _ => yields_cardMatch

theorem yields_symbolsOf (w : String) :
    Yields (symbolsOf w) fun cs => cs ≠ [] ∧ ∀ c ∈ cs, c.Printable :=
  .bind (.any _) fun _ _ => yields_costSymbol.many1

theorem yields_lifeAmount (p : Parser Unit) [p.Uniform] :
    Yields (lifeAmount p) Quantity.Printable :=
  .bind (.any p) fun _ _ => .bind yields_quantity fun _ own => .bind (.any _) fun _ _ => .pure own

theorem yields_draw : Yields draw PlayerEffect.Printable :=
  .bind (.any _) fun _ _ => .bind yields_quantity fun _ own => .bind (.any _) fun _ _ => .pure own

theorem yields_tokenKind : Yields tokenKind fun k => k.kind ≠ .token := by
  refine .bind (.any kindWord) fun k _ => ⟨fun {ks _ rest} numbers read => ?_⟩
  split at read
  · simp at read
  · rename_i other
    simp only [reads_pure, Option.some.injEq, Prod.mk.injEq] at read
    exact read.1 ▸ other

theorem yields_createToken : Yields createToken PlayerEffect.Printable :=
  .bind (.any _) fun _ _ => .bind yields_quantity fun _ n =>
    .bind yields_stats.optional fun _ stats =>
    .bind yields_tokenKind.many fun _ kinds => .bind (.any _) fun _ _ => .bind (.any _) fun _ _ =>
      .pure ⟨n, stats, kinds⟩

theorem yields_discard : Yields discard PlayerEffect.Printable :=
  .bind (.any _) fun _ _ => .bind yields_quantity fun _ n =>
    .bind yields_cardMatch.optional fun _ filter => .pure ⟨n, filter⟩

theorem yields_shuffle : Yields shuffle PlayerEffect.Printable := by
  have cards : Yields shuffled CardMatch.IsPrintable :=
    .bind yields_cardMatch fun _ own => .bind (.any _) fun _ _ => .pure own
  exact .bind (.any _) fun _ _ => .bind cards.optional fun _ objects =>
    .bind yields_zoneMatch fun _ zones => .pure ⟨objects, zones⟩

theorem yields_extraTurn : Yields extraTurn PlayerEffect.Printable :=
  .bind (.any _) fun _ _ => .bind yields_quantity fun _ n => .bind (.any _) fun _ _ =>
    .bind (.any _) fun _ _ => .pure n

theorem yields_look : Yields look PlayerEffect.Printable :=
  .bind (.any _) fun _ _ => .bind (.any _) fun _ _ => .bind yields_quantity fun _ n =>
    .bind (.any _) fun _ _ => .bind (.any _) fun _ _ => .bind yields_zoneMatch fun _ zones =>
      .pure ⟨n, zones⟩

theorem yields_put : Yields put PlayerEffect.Printable :=
  .bind (.any _) fun _ _ => .bind yields_cardMatch fun _ objects => .bind (.any _) fun _ _ =>
    .bind yields_zoneMatch fun _ zones => .bind (.any _) fun _ _ => .bind (.any _) fun _ _ =>
      .bind (.any _) fun _ _ => .pure ⟨objects, zones⟩

theorem yields_playerEffect : Yields playerEffect PlayerEffect.Printable := by
  have objects (w : String) {f : CardMatch → PlayerEffect}
      (same : ∀ m, CardMatch.IsPrintable m → (f m).Printable) :
      Yields (objectsOf w >>= fun m => Pure.pure (f m)) PlayerEffect.Printable :=
    .bind (yields_objectsOf w) fun m own => .pure (same m own)
  have life (w : String) {f : Quantity → PlayerEffect}
      (same : ∀ n, n.Printable → (f n).Printable) :
      Yields (lifeAmount (verb w) >>= fun n => Pure.pure (f n)) PlayerEffect.Printable :=
    .bind (yields_lifeAmount _) fun n own => .pure (same n own)
  refine .orElse yields_draw (.orElse yields_createToken (.orElse (objects _ fun _ => id)
    (.orElse ?add (.orElse (life _ fun _ => id) (.orElse (life _ fun _ => id)
    (.orElse yields_discard (.orElse yields_shuffle (.orElse yields_extraTurn (.orElse yields_look
    (.orElse yields_put (.orElse (objects _ fun _ => id) (.orElse (objects _ fun _ => id)
    (.orElse (objects _ fun _ => id) (.orElse ?pay (life _ fun _ => id)))))))))))))))
  case add => exact .bind (yields_symbolsOf _) fun _ own => .pure own
  case pay => exact .bind (yields_symbolsOf _) fun _ own => .pure own

theorem yields_cardEffect : Yields cardEffect CardEffect.Printable := by
  refine .orElse ?_ ?_
  · exact .bind (.any _) fun _ _ => .bind yields_quantity fun _ n => .bind (.any _) fun _ _ =>
      .bind yields_anyMatch fun _ target => .pure ⟨n, target⟩
  · exact .bind (.any _) fun _ _ => .bind (.any _) fun _ _ => .bind yields_quantity fun _ power =>
      .bind (.any _) fun _ _ => .bind (.any _) fun _ _ => .bind yields_quantity fun _ health =>
        .pure ⟨power, health⟩

theorem yields_sequenceOf {α : Type} {item : Parser α} [item.Uniform] {P : α → Prop}
    (h : Yields item P) : Yields (sequenceOf item) fun xs => xs ≠ [] ∧ ∀ x ∈ xs, P x :=
  .bind h fun _ first => .bind (.many (.bind (.any _) fun _ _ => h)) fun _ rest =>
    .pure ⟨List.cons_ne_nil _ _, List.forall_mem_cons.2 ⟨first, rest⟩⟩

theorem yields_playerClause : Yields playerClause Effect.Printable := by
  have acting : Yields actingPlayers fun s => s.1 ≠ [] :=
    .bind yields_playerMatch fun _ own => .bind (.any _) fun _ _ => .pure own
  refine .bind acting.optional fun subject who => .bind (yields_sequenceOf yields_playerEffect)
    fun _ own => .pure ⟨?_, ?_, own⟩
  · intro m mem
    obtain ⟨s, named, rfl⟩ := Option.map_eq_some_iff.1 mem
    exact who s named
  · cases subject with
    | none => exact fun declines => by cases declines
    | some s => exact fun _ => rfl

theorem yields_effect : Yields effect Effect.Printable :=
  .orElse yields_playerClause (.bind yields_cardMatch.optional fun _ subject =>
    .bind (yields_sequenceOf yields_cardEffect) fun _ own => .pure ⟨subject, own⟩)

theorem yields_composed : Yields composed Composed.Printable :=
  .bind (yields_sequenceOf yields_effect) fun _ own => .bind (.any _) fun _ _ => .pure own

/-! ### Abilities and cards -/

theorem yields_abilityCost : Yields abilityCost AbilityCost.Printable :=
  .orElse (.bind yields_costSymbol fun _ own => .pure own)
    (.bind yields_effect fun _ own => .pure own)

theorem yields_activated : Yields activated Activated.Printable :=
  .bind yields_abilityCost.many1 fun _ costs => .bind (.any _) fun _ _ =>
    .bind yields_composed fun _ bought => .pure ⟨costs.1, costs.2, bought⟩

theorem yields_condition : Yields condition Condition.Printable := by
  have turn (negated : Bool) {c : Condition} (simple : c.Printable) :
      Yields (itsTurn negated >>= fun _ => Pure.pure c) Condition.Printable :=
    .bind (.any _) fun _ _ => .pure simple
  have acts : Yields playerAction fun a => ∀ m, a = .sacrifice m → m.IsPrintable := by
    refine .bind (.any _) fun _ _ => .ite ?_ ?_
    · exact .bind yields_cardMatch fun m own => .pure fun n same => by cases same; exact own
    · exact .bind (.any _) fun _ _ => .bind (.any _) fun _ _ => .pure fun _ same => by cases same
  refine .orElse (turn false trivial) (.orElse (turn true trivial) (.orElse ?_ (.orElse ?_ ?_)))
  · refine .bind yields_playerMatch fun who players => .bind acts fun action own => .pure ?_
    cases action with
    | sacrifice m => exact ⟨players, own m rfl⟩
    | draw => exact players
  · exact .bind yields_cardMatch fun _ own => .bind (.any _) fun _ _ => .pure own
  · exact .bind (.any _) fun _ _ => .bind (.any _) fun _ _ =>
      .bind (yields_comparison yields_cardMatch) fun _ own => .pure own

theorem yields_trigger : Yields trigger Trigger.Printable := by
  have life (verbs : List String) : Yields (lifeChange verbs) fun m => m ≠ [] :=
    .bind yields_playerMatch fun _ own => .bind (.any _) fun _ _ => .bind (.any _) fun _ _ =>
      .pure own
  refine .bind (.any _) fun _ _ => .orElse ?_ (.orElse ?_ (.orElse ?_ (.orElse ?_ ?_)))
  · exact .bind (.bind (.any _) fun _ _ => yields_cardMatch) fun _ own => .pure own
  · exact .bind (life _) fun _ own => .pure own
  · exact .bind (life _) fun _ own => .pure own
  · exact .bind (.bind yields_cardMatch fun _ own => .bind (.any _) fun _ _ => .pure own)
      fun _ own => .pure own
  · exact .bind yields_condition fun _ own => .pure own

theorem yields_ability : Yields ability Ability.Printable := by
  refine .orElse (.bind (.any _) fun _ _ => .pure trivial) (.orElse ?_ (.orElse ?_ ?_))
  · exact .bind yields_composed fun _ own => .pure own
  · exact .bind yields_activated fun _ own => .pure own
  · exact .bind (.bind yields_trigger fun _ cause => .bind (.any _) fun _ _ =>
      .bind yields_composed fun _ caused => .pure ⟨cause, caused⟩) fun _ own => .pure own

theorem yields_card : Yields card Card.Printable := by
  have sentences : Yields sentence Ability.Printable :=
    .bind yields_ability fun _ own => .bind (.any _) fun _ _ => .pure own
  exact .bind (.any _) fun _ _ => .bind yields_costSymbol.many fun _ costs =>
    .bind (.many1 (.any kindWord)) fun _ kinds => .bind (.any _) fun _ _ =>
      .bind sentences.many fun _ abilities => .bind yields_stats.optional fun _ stats =>
        .bind (.any _) fun _ _ => .pure ⟨costs, kinds.1, abilities, stats⟩

end CardGame.Grammar
