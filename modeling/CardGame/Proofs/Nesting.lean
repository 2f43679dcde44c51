import CardGame.Proofs.Yield

/-!
How deep matches nest. A match stands inside another only after one of two words, so no match is
deeper than there are such words, and the bound on the depth cannot be felt while it is above their
number. Printing adds none of them.
-/

namespace CardGame.Grammar

open CardGame.Grammar.Parser
open Text (TokenKind enumerated further)

/-- Whether a match may stand after a token inside the one that the token belongs to. -/
def opensMatch (k : TokenKind) : Bool :=
  k == .word "with" || k == .word "that"

/-- How many matches can be inside each other in some tokens, the outermost one aside. -/
def levels (ks : List TokenKind) : Nat :=
  ks.countP opensMatch

@[simp] theorem levels_nil : levels [] = 0 := rfl

@[simp] theorem levels_append (ks ls : List TokenKind) :
    levels (ks ++ ls) = levels ks + levels ls :=
  List.countP_append

theorem levels_cons (k : TokenKind) (ks : List TokenKind) :
    levels (k :: ks) = levels ks + if opensMatch k then 1 else 0 :=
  List.countP_cons

theorem levels_cons_opening {k : TokenKind} (h : opensMatch k) (ks : List TokenKind) :
    levels (k :: ks) = levels ks + 1 := by
  rw [levels_cons, if_pos h]

theorem levels_cons_other {k : TokenKind} (h : opensMatch k = false) (ks : List TokenKind) :
    levels (k :: ks) = levels ks := by
  rw [levels_cons, if_neg (by simp [h]), Nat.add_zero]

theorem levels_le_of_suffix {ks rest : List TokenKind} (later : rest <:+ ks) :
    levels rest ≤ levels ks :=
  later.sublist.countP_le

theorem levels_le_of_reads {α : Type} {p : Parser α} [p.Uniform] {ks rest : List TokenKind} {a : α}
    (read : p.reads ks = some (a, rest)) : levels rest ≤ levels ks :=
  levels_le_of_suffix (reads_suffix read)

theorem levels_of_word {w : String} (opening : opensMatch (.word w)) {ks rest : List TokenKind}
    {u : Unit} (read : (word w).reads ks = some (u, rest)) : levels rest + 1 ≤ levels ks := by
  rw [reads_word] at read
  split at read
  · rename_i head
    obtain ⟨-, rfl⟩ := Prod.mk.inj (Option.some.inj read)
    obtain _ | ⟨k, ks⟩ := ks
    · cases head
    · rw [headKind_cons] at head
      rw [head, levels_cons_opening opening, List.tail_cons]
  · cases read

theorem levels_of_words {w : String} {ws : List String} (opening : opensMatch (.word w))
    {ks rest : List TokenKind} {u : Unit} (read : (words (w :: ws)).reads ks = some (u, rest)) :
    levels rest + 1 ≤ levels ks := by
  rw [words_cons] at read
  obtain ⟨_, middle, own, later⟩ := parts_of_bind read
  exact (Nat.add_le_add_right (levels_le_of_reads (p := words ws) later) 1).trans
    (levels_of_word opening own)

/-! ### Room -/

/-- Parsers that read the same from tokens with fewer levels than given. -/
def AgreeBelow {α : Type} (n : Nat) (p q : Parser α) : Prop :=
  ∀ ks, levels ks < n → p.reads ks = q.reads ks

namespace AgreeBelow

variable {α β : Type} {n : Nat} {p q : Parser α} {f g : α → Parser β}

theorem refl (p : Parser α) : AgreeBelow n p p :=
  fun _ _ => rfl

theorem bind [p.Uniform] [q.Uniform] [∀ a, (f a).Uniform] [∀ a, (g a).Uniform]
    (first : AgreeBelow n p q) (next : ∀ a, AgreeBelow n (f a) (g a)) :
    AgreeBelow n (p >>= f) (q >>= g) := by
  intro ks few
  rw [reads_bind, reads_bind, ← first ks few]
  cases read : p.reads ks with
  | none => rfl
  | some x => exact next x.1 x.2 (Nat.lt_of_le_of_lt (levels_le_of_reads read) few)

theorem bind_descending [p.Uniform] [∀ a, (f a).Uniform] [∀ a, (g a).Uniform]
    (descends : ∀ {ks a rest}, p.reads ks = some (a, rest) → levels rest + 1 ≤ levels ks)
    (next : ∀ a, AgreeBelow n (f a) (g a)) : AgreeBelow (n + 1) (p >>= f) (p >>= g) := by
  intro ks few
  rw [reads_bind, reads_bind]
  cases read : p.reads ks with
  | none => rfl
  | some x =>
    have := descends read
    exact next x.1 x.2 (by omega)

theorem orElse {p' q' : Parser α} [p.Uniform] [q.Uniform] [p'.Uniform] [q'.Uniform]
    (first : AgreeBelow n p q) (second : AgreeBelow n p' q') :
    AgreeBelow n (p <|> p') (q <|> q') := by
  intro ks few
  rw [reads_orElse, reads_orElse, first ks few, second ks few]

theorem optional [p.Uniform] [q.Uniform] (h : AgreeBelow n p q) :
    AgreeBelow n (optional p) (optional q) := by
  intro ks few
  rw [reads_optional, reads_optional, h ks few]

theorem many [p.Uniform] [q.Uniform] (h : AgreeBelow n p q) : AgreeBelow n (many p) (many q) := by
  have all (ks : List TokenKind) (few : levels ks < n) : p.readsAll ks = q.readsAll ks := by
    fun_induction p.readsAll ks with
    | case1 ks a rest own shorter ih =>
      rw [readsAll_of_some (h ks few ▸ own) shorter,
        ih (Nat.lt_of_le_of_lt (levels_le_of_reads own) few)]
    | case2 ks a rest own longer => simp [readsAll, ← h ks few, own, longer]
    | case3 ks own => rw [readsAll_of_none (h ks few ▸ own)]
  intro ks few
  rw [reads_many, reads_many, all ks few]

theorem consuming [p.Uniform] [q.Uniform] (what : String) (h : AgreeBelow n p q) :
    AgreeBelow n (consuming what p) (consuming what q) := by
  intro ks few
  rw [reads_consuming, reads_consuming, h ks few]

theorem enumeration [p.Uniform] [q.Uniform] (conjunctions : List String) (h : AgreeBelow n p q) :
    AgreeBelow n (enumeration conjunctions p) (enumeration conjunctions q) :=
  .bind h fun _ => .bind
    (.optional (.bind (.many (.bind (.refl _) fun _ => h)) fun _ => .bind (.refl _) fun _ =>
      .bind h fun _ => .refl _))
    fun _ => .refl _

section Inner

variable {inner other : Parser CardMatch} [inner.Uniform] [other.Uniform]

theorem count (h : AgreeBelow n inner other) : AgreeBelow n (count inner) (count other) :=
  .orElse (.bind (.refl _) fun _ => .bind h fun _ => .refl _)
    (.orElse (.bind h fun _ => .refl _) (.refl _))

theorem having (h : AgreeBelow n inner other) :
    AgreeBelow (n + 1) (having inner) (having other) := by
  refine .bind_descending (levels_of_word rfl) fun _ => ?_
  exact .orElse (.refl _) (.bind (.refl _) fun _ =>
    .bind (.bind (.refl _) fun _ => .bind h.count fun _ => .refl _) fun _ => .refl _)

theorem targetingClause (h : AgreeBelow n inner other) :
    AgreeBelow (n + 1) (targetingClause inner) (targetingClause other) :=
  .bind_descending (levels_of_words rfl) fun _ => h

theorem alternative (h : AgreeBelow n inner other) :
    AgreeBelow (n + 1) (alternative inner) (alternative other) := by
  have filter : AgreeBelow (n + 1) (description inner) (description other) :=
    .bind (.refl _) fun _ => .bind (.refl _) fun _ => .bind (.refl _) fun _ =>
      .bind (.refl _) fun _ =>
      .bind h.having.optional fun _ => .bind h.targetingClause.many fun _ => .refl _
  exact .orElse (.refl _) (.orElse (.refl _)
    (.bind (.bind (.refl _) fun _ => filter.consuming _) fun _ => .refl _))

end Inner

theorem cardMatchWithin {n r s : Nat} (left : n ≤ r) (right : n ≤ s) :
    AgreeBelow n (cardMatchWithin r) (cardMatchWithin s) := by
  induction n generalizing r s with
  | zero => exact fun ks few => absurd few (Nat.not_lt_zero _)
  | succ n ih =>
    obtain ⟨r, rfl⟩ := Nat.exists_eq_add_of_le' left
    obtain ⟨s, rfl⟩ := Nat.exists_eq_add_of_le' right
    exact (ih (Nat.le_add_left n r) (Nat.le_add_left n s)).alternative.enumeration _

end AgreeBelow

def roomyMatch : Parser CardMatch := fun cursor =>
  cardMatchWithin (levels cursor.kinds + 1) cursor

theorem outcome_roomyMatch (cursor : Cursor) (notes : Notes) :
    roomyMatch.outcome cursor notes =
      (cardMatchWithin (levels cursor.kinds + 1)).reads cursor.kinds := by
  rw [← Uniform.outcome_eq cursor notes, outcome, outcome, roomyMatch]

instance : Uniform roomyMatch :=
  .of_equation (fun ks => (cardMatchWithin (levels ks + 1)).reads ks) outcome_roomyMatch
    fun {cursor _ _ _} read => Uniform.advances
      (p := cardMatchWithin (levels cursor.kinds + 1)) read

theorem agree_roomyMatch (room : Nat) : AgreeBelow room (cardMatchWithin room) roomyMatch := by
  intro ks few
  rw [reads_of_equation (p := roomyMatch)
    (f := fun ks => (cardMatchWithin (levels ks + 1)).reads ks) outcome_roomyMatch]
  exact AgreeBelow.cardMatchWithin (n := levels ks + 1) few (Nat.le_refl _) ks (Nat.lt_succ_self _)

theorem roomyMatch_none {ks : List TokenKind} (h : ∀ room, (cardMatchWithin room).reads ks = none) :
    roomyMatch.reads ks = none := by
  rw [← agree_roomyMatch _ ks (Nat.lt_succ_self _)]
  exact h _

/-- With all the room that it can use, a match holds such matches again. -/
theorem reads_roomyMatch (ks : List TokenKind) :
    roomyMatch.reads ks = (enumeration ["and", "or"] (alternative roomyMatch)).reads ks := by
  rw [← agree_roomyMatch (levels ks + 1) ks (Nat.lt_succ_self _)]
  exact (agree_roomyMatch (levels ks)).alternative.enumeration _ ks (Nat.lt_succ_self _)

/-! ### Levels of what is printed -/

/-- A parser whose values have at most the weight of the tokens that it reads, counted in levels,
with a weight to begin with. -/
structure Weighs {α : Type} (p : Parser α) (weight : α → Nat) (already : Nat) : Prop where
  le : ∀ {ks a rest}, p.reads ks = some (a, rest) → weight a + levels rest ≤ already + levels ks

namespace Weighs

variable {α β : Type} {p q : Parser α} {f : α → Parser β} {v : α → Nat} {w : β → Nat} {n : Nat}
  {spell : α → List TokenKind}

theorem any (p : Parser α) [p.Uniform] : Weighs p (fun _ => n) n :=
  ⟨fun read => by have := levels_le_of_reads read; omega⟩

theorem pure {a : α} (h : v a ≤ n) : Weighs (Pure.pure a) v n := by
  refine ⟨fun read => ?_⟩
  obtain ⟨rfl, rfl⟩ := parts_of_pure read
  omega

theorem bind [p.Uniform] [∀ a, (f a).Uniform] (first : Weighs p v n)
    (next : ∀ a, Weighs (f a) w (v a)) : Weighs (p >>= f) w n := by
  refine ⟨fun read => ?_⟩
  obtain ⟨a, middle, own, later⟩ := parts_of_bind read
  exact ((next a).le later).trans (first.le own)

theorem orElse [p.Uniform] [q.Uniform] (first : Weighs p v n) (second : Weighs q v n) :
    Weighs (p <|> q) v n := by
  refine ⟨fun read => ?_⟩
  rw [reads_orElse] at read
  exact (Option.or_eq_some_iff.1 read).elim first.le fun h => second.le h.2

theorem add (h : Weighs p v 0) (n : Nat) : Weighs p (fun a => n + v a) n :=
  ⟨fun read => by have := h.le read; omega⟩

theorem optional [p.Uniform] (h : Weighs p v 0) :
    Weighs (optional p) (fun o => (o.map v).getD 0) 0 := by
  refine ⟨fun read => ?_⟩
  obtain ⟨a, rfl, own⟩ | ⟨rfl, rfl, -⟩ := parts_of_optional read
  · exact h.le own
  · simp

theorem many [p.Uniform] (h : Weighs p (fun a => levels (spell a)) 0) :
    Weighs (many p) (fun as => levels (as.flatMap spell)) 0 := by
  have all (ks : List TokenKind) :
      levels ((p.readsAll ks).1.flatMap spell) + levels (p.readsAll ks).2 ≤ levels ks := by
    fun_induction p.readsAll ks with
    | case1 ks a rest own shorter ih =>
      have first := h.le own
      simp only [List.flatMap_cons, levels_append]
      omega
    | case2 => simp
    | case3 => simp
  refine ⟨fun {ks _ _} read => ?_⟩
  rw [reads_many] at read
  have own := all ks
  rw [Option.some.inj read] at own
  exact own.trans (Nat.le_add_left _ _)

theorem consuming [p.Uniform] (what : String) (h : Weighs p v n) : Weighs (consuming what p) v n :=
  ⟨fun read => h.le (parts_of_consuming read).1⟩

theorem enumeration [p.Uniform] (conjunctions : List String)
    (h : Weighs p (fun a => levels (spell a)) 0) :
    Weighs (enumeration conjunctions p) (fun as => levels (as.flatMap spell)) 0 := by
  have further : Weighs (furtherItems conjunctions p) (fun as => levels (as.flatMap spell)) 0 :=
    .bind (.many (.bind (.any _) fun _ => h)) fun middle => .bind (.any _) fun _ =>
      .bind (h.add _) fun last => .pure (by simp)
  refine .bind h fun first => .bind (further.optional.add _) fun others => .pure ?_
  cases others <;> simp

theorem word {opening : String} (opens : opensMatch (.word opening)) :
    Weighs (word opening) (fun _ => 1) 0 :=
  ⟨fun read => by have := levels_of_word opens read; omega⟩

theorem words {opening : String} {ws : List String} (opens : opensMatch (.word opening)) :
    Weighs (words (opening :: ws)) (fun _ => 1) 0 :=
  ⟨fun read => by have := levels_of_words opens read; omega⟩

end Weighs

theorem levels_enumerated {conjunction : TokenKind} (h : opensMatch conjunction = false)
    (items : List (List TokenKind)) :
    levels (enumerated conjunction items) = levels items.flatten := by
  have others (items : List (List TokenKind)) :
      levels (further conjunction items) = levels items.flatten := by
    induction items with
    | nil => rfl
    | cons a rest ih =>
      by_cases last : rest = []
      · subst last
        simp [further, levels_cons_other h]
      · rw [Text.further_cons last, levels_cons_other rfl, levels_append, ih, List.flatten_cons,
          levels_append]
  cases items with
  | nil => rfl
  | cons a rest => rw [enumerated, levels_append, others, List.flatten_cons, levels_append]

theorem levels_match (m : CardMatch) :
    levels m.spelled = levels (m.flatMap Alternative.spelled) := by
  rw [CardMatch.spelled, levels_enumerated rfl, List.flatMap_def]

theorem levels_flatMap_eq_zero {α : Type} {spell : α → List TokenKind}
    (none : ∀ x, levels (spell x) = 0) (xs : List α) : levels (xs.flatMap spell) = 0 := by
  induction xs with
  | nil => rfl
  | cons x xs ih => rw [List.flatMap_cons, levels_append, none, ih]

theorem levels_trait (t : Trait) : levels t.spelled = 0 := by
  have quantity (q : Quantity) : opensMatch q.kind = false := by cases q <;> rfl
  have kind (k : KindWord) : opensMatch (.word k.text) = false := by
    rcases k with ⟨k, plural⟩
    cases k <;> cases plural <;> rfl
  have color (c : Color) : opensMatch (.word c.word) = false := by
    rcases c with e | _
    · cases e <;> rfl
    · rfl
  cases t <;> simp [Trait.spelled, Stats.spelled, levels_cons, quantity, kind, color] <;> decide

theorem levels_number (m : CardMatch) : levels (Count.numberOf m).spelled = levels m.spelled := by
  rw [Count.spelled, alternativesSpelled_eq_map, levels_cons_other rfl, levels_cons_other rfl,
    levels_cons_other rfl, CardMatch.spelled]

theorem levels_attribute (m : CardMatch) (s : Stat) :
    levels (Count.attribute m s).spelled = levels m.spelled := by
  have owned : levels [.mark '\'', .word "s", .word s.word] = 0 := by cases s <;> decide
  rw [Count.spelled, alternativesSpelled_eq_map, levels_append, owned, CardMatch.spelled,
    Nat.add_zero]

theorem levels_value (q : Quantity) : levels (Count.value q).spelled = 0 := by
  rw [Count.spelled, levels_cons_other (by cases q <;> rfl), levels_nil]

theorem levels_comparison (c : Comparison) : levels c.spelled = levels c.count.spelled := by
  obtain ⟨lead, count, trail⟩ := c
  have before : levels (Direction.leadSpelled lead) = 0 := by
    rcases lead with _ | d
    · rfl
    · cases d <;> decide
  have after : levels (Direction.trailSpelled trail) = 0 := by
    rcases trail with _ | d
    · rfl
    · cases d <;> decide
  simp [Comparison.spelled, before, after]

theorem levels_keywords (ks : List Keyword) :
    levels (havingSpelled (some (.keywords ks))) = 1 := by
  have word (k : Keyword) : levels [.word k.word] = 0 := by cases k <;> decide
  rw [havingSpelled, Having.spelled, levels_cons_opening rfl, keywordsSpelled,
    levels_enumerated rfl, ← List.flatMap_def, levels_flatMap_eq_zero word]

theorem levels_compared (s : Stat) (c : Comparison) :
    levels (havingSpelled (some (.comparison s c))) = 1 + levels c.count.spelled := by
  have word : opensMatch (.word s.word) = false := by cases s <;> rfl
  rw [havingSpelled, Having.spelled, levels_cons_opening rfl, levels_cons_other word,
    levels_comparison, Nat.add_comm]

theorem levels_clause (m : CardMatch) : levels m.targetSpelled = 1 + levels m.spelled := by
  rw [CardMatch.targetSpelled, levels_cons_opening rfl, levels_cons_other rfl, Nat.add_comm]

theorem levels_filter (f : CardFilter) :
    levels f.spelled = ((f.having.map fun h => levels (havingSpelled (some h))).getD 0) +
      levels (f.targeting.flatMap CardMatch.targetSpelled) := by
  obtain ⟨selector, traits, without, having, targeting⟩ := f
  have designator : levels (selector.toList.flatMap Selector.spelled) = 0 := by
    rcases selector with _ | s
    · rfl
    · cases s <;> decide
  have noun : levels (nounSpelled traits) = 0 := by
    unfold nounSpelled
    split <;> decide
  have lacking : levels (lackingSpelled without) = 0 := by
    rcases without with _ | k
    · rfl
    · cases k <;> decide
  rw [CardFilter.spelled, levels_append, designator, levels_append,
    levels_flatMap_eq_zero levels_trait, levels_append, noun, levels_append, lacking, levels_append,
    targetingSpelled_eq_flatMap]
  cases having <;> simp [havingSpelled]

section Inner

variable {inner : Parser CardMatch} [inner.Uniform]
  (weighs : Weighs inner (fun m => levels m.spelled) 0)

include weighs

theorem weighs_count : Weighs (count inner) (fun c => levels c.spelled) 0 :=
  .orElse (.bind (.any _) fun _ => .bind weighs fun m => .pure (levels_number m).le)
    (.orElse (.bind weighs fun m => .bind (.any _) fun _ => .bind (.any _) fun s =>
        .pure (levels_attribute m s).le)
      (.bind (.any _) fun q => .pure (levels_value q).le))

theorem weighs_comparison : Weighs (comparison inner) (fun c => levels c.count.spelled) 0 :=
  .bind (.any _) fun _ => .bind (weighs_count weighs) fun _ => .bind (.any _) fun _ =>
    .pure (Nat.le_refl _)

theorem weighs_having : Weighs (having inner) (fun h => levels (havingSpelled (some h))) 0 :=
  .bind (.word rfl) fun _ =>
    .orElse (.bind (.any _) fun ks => .pure (levels_keywords ks).le)
      (.bind (.any _) fun s => .bind ((weighs_comparison weighs).add _) fun c =>
        .pure (levels_compared s c).le)

theorem weighs_clause : Weighs (targetingClause inner) (fun m => levels m.targetSpelled) 0 := by
  refine .bind (.words rfl) fun _ => ?_
  simp only [levels_clause]
  exact weighs.add 1

theorem weighs_description : Weighs (description inner) (fun f => levels f.spelled) 0 :=
  .bind (.any _) fun _ => .bind (.any _) fun _ => .bind (.any _) fun _ => .bind (.any _) fun _ =>
    .bind (weighs_having weighs).optional fun _ =>
      .bind ((weighs_clause weighs).many.add _) fun _ =>
      .pure (levels_filter _).le

theorem weighs_alternative : Weighs (alternative inner) (fun a => levels a.spelled) 0 :=
  .orElse (.bind (.any _) fun _ => .pure (by decide))
    (.orElse (.bind (.any _) fun _ => .pure (by decide))
      (.bind (.bind (.any _) fun _ => .consuming _ (weighs_description weighs)) fun _ =>
        .pure (Nat.le_refl _)))

end Inner

/-- The printed form of a match has no more levels than what it was read from. -/
theorem weighs_cardMatchWithin (room : Nat) :
    Weighs (cardMatchWithin room) (fun m => levels m.spelled) 0 := by
  induction room with
  | zero => exact ⟨nofun⟩
  | succ room ih =>
    simp only [levels_match]
    exact (weighs_alternative ih).enumeration _

end CardGame.Grammar
