import CardGame.Proofs.Derivation
import CardGame.Proofs.SourceLines

/-!
Where the type line ends. Its kinds and subtypes are lists that go on as long as words fit, and line
ends are not tokens, so the lines after it take part in them exactly when they begin with a word
that fits. Everything that the first two lines say by themselves stays.
-/

namespace CardGame.Grammar

open CardGame.Grammar.Parser
open Text (TokenKind)

def startsWith {α : Type} (meaning : String → Option α) (ks : List TokenKind) : Bool :=
  match headKind ks with
  | .word w => (meaning w).isSome
  | _ => false

/-- Whether further tokens go on with the lists of a type line: with a subtype where the line has a
dash, else with a kind, or with a dash and a subtype. -/
def continuesLine (line further : List TokenKind) : Bool :=
  if .mark '-' ∈ line then
    startsWith CardSubtype.ofWord? further
  else
    startsWith KindWord.ofWord? further ||
      (headKind further == .mark '-' && startsWith CardSubtype.ofWord? further.tail)

theorem continuesLine_congr {line line' : List TokenKind}
    (same : .mark '-' ∈ line ↔ .mark '-' ∈ line') (further : List TokenKind) :
    continuesLine line further = continuesLine line' further := by
  simp only [continuesLine, same]

theorem readsAll_wordAs_eq_nil_iff {α : Type} {what : String} {meaning : String → Option α}
    {ks : List TokenKind} :
    ((wordAs what meaning).readsAll ks).1 = [] ↔ startsWith meaning ks = false := by
  have none_of (h : ∀ w, headKind ks = .word w → meaning w = none) :
      ((wordAs what meaning).readsAll ks).1 = [] := by
    rw [readsAll_of_none (wordAs_none h)]
  cases ks with
  | nil => exact iff_of_true (none_of nofun) rfl
  | cons k ks =>
    cases k with
    | word w =>
      cases known : meaning w with
      | none => exact iff_of_true (none_of fun v e => by cases e; exact known) (by
          simp [startsWith, known])
      | some a =>
        rw [readsAll_of_some (by rw [reads_wordAs_word, known]; rfl) (Nat.lt_succ_self _)]
        simp [startsWith, known]
    | number | mark | fault | endOfInput => exact iff_of_true (none_of nofun) rfl

/-! ### What is read of a derivation -/

section

variable {α : Type} {p : Parser α} {D : Phrases α}
  (each : ∀ {ks a}, D ks a → ∀ more, p.reads (ks ++ more) = some (a, more))
  (nonempty : ∀ {ks a}, D ks a → ks ≠ [])

include each nonempty

theorem readsAll_of_repeated {ks : List TokenKind} {as : List α} (phrase : Repeated D ks as)
    (more : List TokenKind) :
    p.readsAll (ks ++ more) = (as ++ (p.readsAll more).1, (p.readsAll more).2) := by
  induction phrase with
  | nil => rfl
  | @cons own later a as first others ih =>
    have shorter : (later ++ more).length < (own ++ (later ++ more)).length := by
      have := List.length_pos_of_ne_nil (nonempty first)
      simp only [List.length_append]
      omega
    rw [List.append_assoc, readsAll_of_some (each first _) shorter, ih]
    rfl

theorem reads_many1_of_series [p.Uniform] {ks : List TokenKind} {as : List α}
    (phrase : Series D ks as) (more : List TokenKind) :
    (many1 p).reads (ks ++ more) = some (as ++ (p.readsAll more).1, (p.readsAll more).2) := by
  obtain ⟨first, others⟩ := phrase
  have later := readsAll_of_repeated each nonempty others more
  simp [many1, List.append_assoc, each first, later]

end

theorem WordFor.ne_nil {α : Type} {spelling : α → String} {ks : List TokenKind} {a : α}
    (phrase : WordFor spelling ks a) : ks ≠ [] := by
  obtain ⟨a⟩ := phrase
  exact List.cons_ne_nil _ _

theorem reads_kindWord_of_phrase {ks : List TokenKind} {k : KindWord}
    (phrase : WordFor KindWord.text ks k) (more : List TokenKind) :
    kindWord.reads (ks ++ more) = some (k, more) := by
  obtain ⟨k⟩ := phrase
  exact reads_kindWord k more

theorem reads_subtype_of_phrase {ks : List TokenKind} {s : CardSubtype}
    (phrase : WordFor CardSubtype.word ks s) (more : List TokenKind) :
    subtype.reads (ks ++ more) = some (s, more) := by
  obtain ⟨s⟩ := phrase
  exact reads_subtype s more

theorem ne_nil_of_costSymbol {ks : List TokenKind} {c : CostSymbol}
    (phrase : CostSymbol.Phrase ks c) : ks ≠ [] := by
  obtain ⟨inner⟩ := phrase
  exact List.cons_ne_nil _ _

theorem reads_costSymbol_of_phrase {ks : List TokenKind} {c : CostSymbol}
    (phrase : CostSymbol.Phrase ks c) (more : List TokenKind) :
    costSymbol.reads (ks ++ more) = some (c, more) := by
  obtain ⟨inner⟩ := phrase
  cases inner with
  | essence e => exact reads_costSymbol (.essence e) more
  | activate => exact reads_costSymbol .activate more
  | deactivate => exact reads_costSymbol .deactivate more
  | generic number =>
    cases number with
    | int n => exact reads_costSymbol (.generic (.number n)) more
    | a => exact reads_costSymbol (.generic .one) more
    | an =>
      have other : Essence.ofSymbol? "an" = none := by decide
      have article (ks : List TokenKind) : quantity.reads (.word "an" :: ks) = some (.one, ks) := by
        rw [quantity, reads_token]
        rfl
      simp [costSymbol, said, other, article]
    | x => exact reads_costSymbol (.generic .x) more

theorem dash_notMem_costs {ks : List TokenKind} {costs : List CostSymbol}
    (phrase : Repeated CostSymbol.Phrase ks costs) : .mark '-' ∉ ks := by
  induction phrase with
  | nil => simp
  | cons first others ih =>
    rw [List.mem_append, not_or]
    refine ⟨?_, ih⟩
    obtain ⟨inner⟩ := first
    cases inner with
    | generic number => cases number <;> simp [said]
    | essence | activate | deactivate => simp [said]

theorem dash_notMem_words {α : Type} {spelling : α → String} {ks : List TokenKind} {as : List α}
    (phrase : Repeated (WordFor spelling) ks as) : .mark '-' ∉ ks := by
  induction phrase with
  | nil => simp
  | cons first others ih =>
    obtain ⟨a⟩ := first
    simpa [said] using ih

theorem dash_notMem_kinds {ks : List TokenKind} {kinds : List KindWord}
    (phrase : Series (WordFor KindWord.text) ks kinds) : .mark '-' ∉ ks := by
  obtain ⟨⟨k⟩, others⟩ := phrase
  simpa [said] using dash_notMem_words others

theorem reads_subtypes_eq (ks : List TokenKind) :
    subtypes.reads ks =
      if headKind ks = .mark '-' then some (subtype.readsAll ks.tail) else some ([], ks) := by
  simp only [subtypes, reads_bind, reads_flag, reads_mark, Option.bind_some]
  split <;> simp

/-! ### Type lines -/

inductive LinesPhrase : Phrases Card
  | mk {name a costs b kinds c subtypes} : Repeated CostSymbol.Phrase a costs →
      Series (WordFor KindWord.text) b kinds → CardSubtype.ListPhrase c subtypes →
      LinesPhrase (said [name] ++ (a ++ (b ++ c))) ⟨name, costs, kinds, subtypes, [], none⟩

theorem LinesPhrase.of_card {ks : List TokenKind} {c : Card}
    (phrase : Card.Phrase (ks ++ [.endOfInput]) c) (abilities : c.abilities = [])
    (stats : c.stats = none) : LinesPhrase ks c := by
  generalize whole : ks ++ [.endOfInput] = all at phrase
  obtain ⟨costs, kinds, subtypes, listed, printed⟩ := phrase
  cases abilities
  cases stats
  cases listed
  cases printed
  simp only [List.nil_append, ← List.append_assoc] at whole
  rw [List.append_cancel_right whole]
  simpa only [List.append_assoc] using LinesPhrase.mk costs kinds subtypes

/-- A card that keeps what was read of its name and its type line, and whether it says more. -/
structure KeepsLines (line c : Card) (more : Bool) : Prop where
  name : c.name = line.name
  costs : c.costs = line.costs
  kinds : line.kinds <+: c.kinds
  subtypes : line.subtypes <+: c.subtypes
  same_iff : c.kinds = line.kinds ∧ c.subtypes = line.subtypes ↔ more = false

theorem lists_of_reads {own more later : List TokenKind} {line read : List CardSubtype}
    (phrase : CardSubtype.ListPhrase own line)
    (reads : subtypes.reads (kindWord.readsAll (own ++ more)).2 = some (read, later)) :
    line <+: read ∧
      ((kindWord.readsAll (own ++ more)).1 = [] ∧ read = line ↔
        continuesLine own more = false) := by
  rw [reads_subtypes_eq] at reads
  cases phrase with
  | absent =>
    refine ⟨List.nil_prefix, ?_⟩
    rw [List.nil_append] at reads ⊢
    rw [kindWord] at reads ⊢
    rw [readsAll_wordAs_eq_nil_iff]
    cases kinds : startsWith KindWord.ofWord? more with
    | true => simp [continuesLine, kinds]
    | false =>
      rw [readsAll_eq_of_nil (readsAll_wordAs_eq_nil_iff.2 kinds)] at reads
      split at reads
      · rename_i dash
        obtain ⟨rfl, -⟩ := Prod.mk.inj (Option.some.inj reads)
        rw [subtype, readsAll_wordAs_eq_nil_iff]
        simp [continuesLine, kinds, dash]
      · rename_i noDash
        cases reads
        simp [continuesLine, kinds, noDash]
  | @dash ks _ words =>
    have noKind : kindWord.readsAll ([.mark '-'] ++ ks ++ more) = ([], [.mark '-'] ++ ks ++ more) :=
      readsAll_of_none (kindWord_none rfl)
    have grown := readsAll_of_repeated reads_subtype_of_phrase WordFor.ne_nil words more
    rw [noKind] at reads ⊢
    simp only [List.cons_append, List.nil_append, headKind_cons, if_true, List.tail_cons, grown,
      Option.some.injEq, Prod.mk.injEq] at reads
    rw [← reads.1]
    refine ⟨List.prefix_append _ _, ?_⟩
    simp [continuesLine, subtype, readsAll_wordAs_eq_nil_iff]

theorem keepsLines_of_reads {ks more rest : List TokenKind} {line c : Card}
    (phrase : LinesPhrase ks line) (read : card.reads (ks ++ more) = some (c, rest)) :
    KeepsLines line c (continuesLine ks more) := by
  obtain @⟨name, a, costs, b, kinds, d, peoples, costsPhrase, kindsPhrase, subtypesPhrase⟩ := phrase
  have word : headKind (b ++ (d ++ more)) ≠ .mark '\x7b' := by
    obtain ⟨⟨k⟩, others⟩ := kindsPhrase
    simp [said]
  have costsRead := readsAll_of_repeated reads_costSymbol_of_phrase ne_nil_of_costSymbol costsPhrase
    (b ++ (d ++ more))
  rw [readsAll_of_none (costSymbol_none word), List.append_nil] at costsRead
  have kindsRead := reads_many1_of_series reads_kindWord_of_phrase WordFor.ne_nil kindsPhrase
    (d ++ more)
  have nameRead : cardName.reads (said [name] ++ (a ++ (b ++ (d ++ more)))) =
      some (name, a ++ (b ++ (d ++ more))) := by
    rw [cardName, reads_token]
    rfl
  rw [List.append_assoc, List.append_assoc, List.append_assoc] at read
  simp only [card, reads_bind, nameRead, reads_many, costsRead, kindsRead, Option.bind_some,
    Option.bind_eq_some_iff, reads_pure, Option.some.injEq, Prod.mk.injEq] at read
  obtain ⟨⟨read, later⟩, reads, printed, -, stop, -, same, -⟩ := read
  obtain ⟨grows, lists⟩ := lists_of_reads subtypesPhrase reads
  have dash : .mark '-' ∈ said [name] ++ (a ++ (b ++ d)) ↔ .mark '-' ∈ d := by
    simp [said, dash_notMem_costs costsPhrase, dash_notMem_kinds kindsPhrase]
  subst same
  exact ⟨rfl, rfl, List.prefix_append _ _, grows, by
    simpa [continuesLine_congr dash] using lists⟩

/-! ### The lines of a text -/

/-- What the first two lines of a text say by themselves is kept in the card that the whole text is
read as. The lists of the type line stay as they are unless the lines after it begin with words that
go on with them. -/
theorem keepsLines_of_parse {first second further : String} {line c : Card}
    (name_line : '\n' ∉ first.toList) (two : parse (first ++ "\n" ++ second) = .ok line)
    (abilities : line.abilities = []) (stats : line.stats = none)
    (whole : parse (first ++ "\n" ++ second ++ "\n" ++ further) = .ok c) :
    KeepsLines line c (continuesLine
      (Text.kindsOf (sourceOf (first ++ "\n" ++ second) line.name))
      (sourceKinds further line.name)) := by
  obtain ⟨named, -, own, rest, read, rfl⟩ := parse_eq_ok_iff.1 two
  obtain ⟨-, -, own', rest', read', rfl⟩ := parse_eq_ok_iff.1 whole
  have sameName : nameOf (first ++ "\n" ++ second ++ "\n" ++ further).toList =
      nameOf (first ++ "\n" ++ second).toList := by
    simpa using nameOf_append_newline name_line (second.toList ++ '\n' :: further.toList)
      second.toList
  have phrase := (phrase_of_reads_card read).1
  rw [takeWhile_sourceKinds] at phrase
  rw [sameName, sourceKinds_append_newline (by simpa using (isName_nameOf named).line)] at read'
  obtain ⟨-, costs, kinds, subtypes, same⟩ :=
    keepsLines_of_reads (.of_card phrase abilities stats) read'
  exact ⟨congrArg String.ofList sameName, costs, kinds, subtypes, same⟩

def plainSpell : Card :=
  (Card.blank "Bless").withKind ⟨.spell, false⟩

/-- Its text goes on with an ability whose subject is a kind without an article, which is read as
one more kind of the card. -/
theorem keepsLines_of_parse_plainSpell :
    ∃ c, parse ("Bless" ++ "\n" ++ "Spell") = .ok plainSpell ∧
      parse ("Bless" ++ "\n" ++ "Spell" ++ "\n" ++ "Unit gets +1/+1.") = .ok c ∧
      KeepsLines plainSpell c true ∧ c.kinds ≠ plainSpell.kinds := by
  have two : parse ("Bless" ++ "\n" ++ "Spell") = .ok plainSpell := by decide +kernel
  have whole : parse ("Bless" ++ "\n" ++ "Spell" ++ "\n" ++ "Unit gets +1/+1.") =
      .ok ((plainSpell.withKind ⟨.unit, false⟩).withAbility
        (.composed ⟨[.card none [.gets .plus (.number 1) .plus (.number 1)]]⟩)) := by decide +kernel
  have continues : continuesLine (Text.kindsOf (sourceOf ("Bless" ++ "\n" ++ "Spell") "Bless"))
      (sourceKinds "Unit gets +1/+1." "Bless") = true := by decide +kernel
  have kept := keepsLines_of_parse (by decide) two rfl rfl whole
  exact ⟨_, two, whole, continues ▸ kept, by decide⟩

end CardGame.Grammar
