import CardGame.Card.Basic
import CardGame.Proofs.Scanning

/-!
How cards are spelled: the token kinds of every printed form, with the placeholder where a card
names itself. A printed form has these tokens when its numbers are not negative and its enumerations
have items, as in everything that is read from a text.
-/

namespace CardGame

open Text (TokenKind kinds kinds_append_of_opens kinds_append_of_closes kinds_between kinds_join
  kinds_join_empty kinds_enumerate kinds_toString separated enumerated further)

/-! ### Numbers and symbols -/

def Quantity.kind : Quantity → TokenKind
  | number n => .number n
  | one => .word "a"
  | x => .word "x"

def Quantity.Printable : Quantity → Prop
  | number n => 0 ≤ n.toInt
  | _ => True

theorem Quantity.kinds_text {q : Quantity} (h : q.Printable) : kinds q.text = [q.kind] := by
  cases q with
  | number n => exact kinds_toString h
  | one => decide
  | x => decide

def Stats.spelled (s : Stats) : List TokenKind :=
  [s.power.kind, .mark '/', s.health.kind]

def Stats.Printable (s : Stats) : Prop :=
  s.power.Printable ∧ s.health.Printable

theorem Stats.kinds_text {s : Stats} (h : s.Printable) : kinds s.text = s.spelled := by
  have stroke : kinds "/" = [.mark '/'] := by decide
  rw [text, kinds_between _ _ (by decide) (by decide), Quantity.kinds_text h.1,
    Quantity.kinds_text h.2, stroke]
  rfl

def CostSymbol.kind : CostSymbol → TokenKind
  | essence e => .word e.symbol
  | activate => .word "q"
  | deactivate => .word "t"
  | generic q => q.kind

def CostSymbol.spelled (c : CostSymbol) : List TokenKind :=
  [.mark '\x7b', c.kind, .mark '\x7d']

def CostSymbol.Printable : CostSymbol → Prop
  | generic q => q.Printable
  | _ => True

theorem CostSymbol.kinds_text {c : CostSymbol} (h : c.Printable) : kinds c.text = c.spelled := by
  cases c with
  | essence e => cases e <;> decide
  | activate => decide
  | deactivate => decide
  | generic q =>
    have opening : kinds "\x7b" = [.mark '\x7b'] := by decide
    have closing : kinds "\x7d" = [.mark '\x7d'] := by decide
    show kinds ("\x7b" ++ q.text ++ "\x7d") = _
    rw [kinds_append_of_opens (by decide), kinds_append_of_closes (by decide),
      Quantity.kinds_text h, opening, closing]
    rfl

theorem CostSymbol.kinds_join_text {cs : List CostSymbol} (h : ∀ c ∈ cs, c.Printable) :
    kinds (Text.join "" (cs.map text)) = cs.flatMap spelled := by
  have closes : ∀ s ∈ cs.map text, Text.closesApart s.toList := by
    intro s mem
    obtain ⟨c, -, rfl⟩ := List.mem_map.1 mem
    unfold text
    rw [String.toList_append]
    exact Text.closesApart_append (by decide)
  rw [kinds_join_empty closes, List.flatMap_def, List.flatMap_def, List.map_map]
  exact congrArg List.flatten (List.map_congr_left fun c mem => kinds_text (h c mem))

theorem Color.kinds_word (c : Color) : kinds c.word = [.word c.word] := by
  rcases c with e | _
  · cases e <;> decide
  · decide

theorem KindWord.kinds_text (k : KindWord) : kinds k.text = [.word k.text] := by
  rcases k with ⟨k, plural⟩
  cases k <;> cases plural <;> decide

theorem CardSubtype.kinds_word (s : CardSubtype) : kinds s.word = [.word s.word] := by
  cases s <;> decide

theorem Keyword.kinds_word (k : Keyword) : kinds k.word = [.word k.word] := by
  cases k <;> decide

/-! ### Matches -/

def Selector.spelled : Selector → List TokenKind
  | sacrificed => [.word "the", .word "sacrificed"]
  | target => [.word "target"]

theorem Selector.kinds_text (s : Selector) : kinds s.text = s.spelled := by
  cases s <;> decide

def Trait.spelled : Trait → List TokenKind
  | color c => [.word c.word]
  | nonColor c => [.word "non", .mark '-', .word c.word]
  | kind k => [.word k.text]
  | nonKind k => [.word "non", .mark '-', .word k.text]
  | activated => [.word "activated"]
  | deactivated => [.word "deactivated"]
  | stats s => s.spelled

def Trait.Printable : Trait → Prop
  | stats s => s.Printable
  | _ => True

theorem Trait.kinds_text {t : Trait} (h : t.Printable) : kinds t.text = t.spelled := by
  have negation : kinds "non-" = [.word "non", .mark '-'] := by decide
  cases t with
  | color c => exact c.kinds_word
  | nonColor c => rw [text, kinds_append_of_closes (by decide), negation, c.kinds_word]; rfl
  | kind k => exact k.kinds_text
  | nonKind k => rw [text, kinds_append_of_closes (by decide), negation, k.kinds_text]; rfl
  | activated => decide
  | deactivated => decide
  | stats s => exact Stats.kinds_text h

def Direction.leadSpelled : Option Direction → List TokenKind
  | some d => [.word d.word, .word "than"]
  | none => []

def Direction.trailSpelled : Option Direction → List TokenKind
  | some d => [.word "or", .word d.word]
  | none => []

def keywordsSpelled (ks : List Keyword) : List TokenKind :=
  enumerated (.word "and") (ks.map fun k => [.word k.word])

/-- The noun after traits, which a kind among them makes superfluous. -/
def nounSpelled (traits : List Trait) : List TokenKind :=
  if traits.any Trait.isKind then [] else [.word "card"]

def lackingSpelled : Option Keyword → List TokenKind
  | some k => [.word "without", .word k.word]
  | none => []

@[simp] theorem nounSpelled_nil : nounSpelled [] = [.word "card"] := rfl

mutual

def Alternative.spelled : Alternative → List TokenKind
  | .named => [.word ownName]
  | .this => [.word "this"]
  | .filter f => CardFilter.spelled f

def CardFilter.spelled : CardFilter → List TokenKind
  | ⟨selector, traits, without, having, targeting⟩ =>
    selector.toList.flatMap Selector.spelled
      ++ (traits.flatMap Trait.spelled
      ++ (nounSpelled traits
      ++ (lackingSpelled without
      ++ (havingSpelled having
      ++ targetingSpelled targeting))))

def havingSpelled : Option Having → List TokenKind
  | some h => .word "with" :: Having.spelled h
  | none => []

def Having.spelled : Having → List TokenKind
  | .keywords ks => keywordsSpelled ks
  | .comparison stat c => .word stat.word :: Comparison.spelled c

def Comparison.spelled : Comparison → List TokenKind
  | ⟨lead, count, trail⟩ =>
    Direction.leadSpelled lead ++ (Count.spelled count ++ Direction.trailSpelled trail)

def Count.spelled : Count → List TokenKind
  | .numberOf m =>
    .word "the" :: .word "number" :: .word "of" :: enumerated (.word "or") (alternativesSpelled m)
  | .attribute owner stat =>
    enumerated (.word "or") (alternativesSpelled owner) ++ [.mark '\'', .word "s", .word stat.word]
  | .value q => [q.kind]

def alternativesSpelled : List Alternative → List (List TokenKind)
  | [] => []
  | a :: rest => Alternative.spelled a :: alternativesSpelled rest

def targetingSpelled : List (List Alternative) → List TokenKind
  | [] => []
  | m :: rest =>
    .word "that" :: .word "targets" :: enumerated (.word "or") (alternativesSpelled m)
      ++ targetingSpelled rest

end

def CardMatch.spelled (m : CardMatch) : List TokenKind :=
  enumerated (.word "or") (m.map Alternative.spelled)

theorem alternativesSpelled_eq_map (m : CardMatch) :
    alternativesSpelled m = m.map Alternative.spelled := by
  induction m with
  | nil => rfl
  | cons a rest ih => simp [alternativesSpelled, ih]

def CardMatch.targetSpelled (m : CardMatch) : List TokenKind :=
  .word "that" :: .word "targets" :: m.spelled

theorem targetingSpelled_eq_flatMap (ms : List CardMatch) :
    targetingSpelled ms = ms.flatMap CardMatch.targetSpelled := by
  induction ms with
  | nil => rfl
  | cons m rest ih =>
    simp [targetingSpelled, alternativesSpelled_eq_map, ih, CardMatch.targetSpelled,
      CardMatch.spelled]

/-- A count whose number is printable and whose match satisfies what inner matches have to. -/
def Count.Printable (inner : CardMatch → Prop) : Count → Prop
  | numberOf m => inner m
  | .attribute owner _ => inner owner
  | value q => q.Printable

def Having.Printable (inner : CardMatch → Prop) : Having → Prop
  | keywords ks => ks ≠ []
  | comparison _ c => c.count.Printable inner

structure CardFilter.Printable (inner : CardMatch → Prop) (f : CardFilter) : Prop where
  traits : ∀ t ∈ f.traits, t.Printable
  having : ∀ h ∈ f.having, h.Printable inner
  targeting : ∀ m ∈ f.targeting, inner m

def Alternative.Printable (inner : CardMatch → Prop) : Alternative → Prop
  | filter f => f.Printable inner
  | _ => True

/-- A match with some alternatives at each level, with matches inside each other only as deep as
there is room, and with printable numbers. -/
def CardMatch.Printable : (room : Nat) → CardMatch → Prop
  | 0, _ => False
  | room + 1, m => m ≠ [] ∧ ∀ a ∈ m, a.Printable (CardMatch.Printable room)

theorem CardMatch.Printable.nonempty {room : Nat} {m : CardMatch} (h : m.Printable room) :
    m ≠ [] := by
  cases room with
  | zero => exact nomatch h
  | succ room => exact h.1

theorem Direction.kinds_leadText (d : Option Direction) : kinds (leadText d) = leadSpelled d := by
  rcases d with _ | d
  · decide
  · cases d <;> decide

theorem Direction.kinds_trailText (d : Option Direction) :
    kinds (trailText d) = trailSpelled d := by
  rcases d with _ | d
  · decide
  · cases d <;> decide

theorem keywords_kinds_text (ks : List Keyword) :
    kinds (Text.enumerate "and" (ks.map Keyword.word)) = keywordsSpelled ks := by
  rw [kinds_enumerate (by decide), List.map_map, keywordsSpelled]
  congr 1
  exact List.map_congr_left fun k _ => k.kinds_word

section Inner

/-! What the printed forms hold when those of inner matches have the tokens that they should. -/

variable {inner : CardMatch → Prop}
  (texts : ∀ m, inner m → kinds (m.text ownName) = m.spelled)

include texts

theorem Count.kinds_text {c : Count} (h : c.Printable inner) :
    kinds (c.text ownName) = c.spelled := by
  cases c with
  | numberOf m =>
    have before : kinds "the number of " = [.word "the", .word "number", .word "of"] := by decide
    rw [text, kinds_append_of_closes (by decide), before, spelled, alternativesSpelled_eq_map]
    exact congrArg _ (texts m h)
  | «attribute» owner stat =>
    have between : kinds "'s " = [.mark '\'', .word "s"] := by decide
    have word : kinds stat.word = [.word stat.word] := by cases stat <;> decide
    rw [text, kinds_between _ _ (by decide) (by decide), between, word, spelled,
      alternativesSpelled_eq_map]
    exact congrArg (· ++ _) (texts owner h)
  | value q => exact Quantity.kinds_text h

theorem Comparison.kinds_text {c : Comparison} (h : c.count.Printable inner) :
    kinds (c.text ownName) = c.spelled := by
  obtain ⟨lead, count, trail⟩ := c
  have after : Text.opensApart (Direction.trailText trail).toList := by
    rcases trail with _ | d
    · decide
    · cases d <;> decide
  have tail : kinds (count.text ownName ++ Direction.trailText trail) =
      count.spelled ++ Direction.trailSpelled trail := by
    rw [kinds_append_of_opens after, Count.kinds_text texts h, Direction.kinds_trailText]
  rw [text, spelled, String.append_assoc, ← tail, ← Direction.kinds_leadText]
  rcases lead with _ | d
  · rw [Direction.leadText, String.empty_append]
    rfl
  · exact kinds_append_of_closes (by cases d <;> decide)

theorem Having.kinds_text {h : Having} (printable : h.Printable inner) :
    kinds (h.text ownName) = h.spelled := by
  cases h with
  | keywords ks => exact keywords_kinds_text ks
  | comparison stat c =>
    have word : kinds stat.word = [.word stat.word] := by cases stat <;> decide
    have blank : kinds " " = [] := by decide
    rw [text, kinds_between _ _ (by decide) (by decide), word, blank,
      Comparison.kinds_text texts printable]
    rfl

theorem CardFilter.kinds_text {f : CardFilter} (h : f.Printable inner) :
    kinds (f.text ownName) = f.spelled := by
  obtain ⟨selector, traits, without, having, targeting⟩ := f
  have blank : kinds " " = [] := by decide
  have ownTraits : ((traits.map Trait.text).map kinds).flatten = traits.flatMap Trait.spelled := by
    rw [List.map_map, List.flatMap_def]
    exact congrArg List.flatten (List.map_congr_left fun t mem => Trait.kinds_text (h.traits t mem))
  have noun : ((if traits.any Trait.isKind then [] else ["card"]).map kinds).flatten =
      nounSpelled traits := by
    unfold nounSpelled
    split <;> decide
  have clauses : ((targetingTexts ownName targeting).map kinds).flatten =
      targetingSpelled targeting := by
    have all := h.targeting
    clear h ownTraits noun
    induction targeting with
    | nil => rfl
    | cons m rest ih =>
      have that : kinds "that targets " = [.word "that", .word "targets"] := by decide
      rw [targetingTexts, List.map_cons, List.flatten_cons,
        ih fun m mem => all m (List.mem_cons_of_mem _ mem),
        kinds_append_of_closes (by decide), that, targetingSpelled, alternativesSpelled_eq_map]
      exact congrArg (· ++ _) (congrArg (_ ++ ·) (texts m (all m List.mem_cons_self)))
  have designator : ((selector.toList.map Selector.text).map kinds).flatten =
      selector.toList.flatMap Selector.spelled := by
    cases selector <;> simp [Selector.kinds_text]
  have lacking : ((without.toList.map fun k => "without " ++ k.word).map kinds).flatten =
      lackingSpelled without := by
    rcases without with _ | k
    · rfl
    · cases k <;> decide
  unfold text spelled
  rw [kinds_join (by decide) (by decide), blank, Text.separated_nil]
  cases having with
  | none =>
    simp only [List.map_append, List.flatten_append, designator, ownTraits, noun, lacking,
      clauses, List.append_assoc, List.map_nil, List.flatten_nil, havingSpelled]
  | some own =>
    have before : kinds "with " = [.word "with"] := by decide
    have qualifier : kinds ("with " ++ own.text ownName) = .word "with" :: own.spelled := by
      rw [kinds_append_of_closes (by decide), before, Having.kinds_text texts (h.having own rfl)]
      rfl
    simp only [List.map_append, List.flatten_append, designator, ownTraits, noun, lacking,
      clauses, List.append_assoc, List.map_cons, List.map_nil, List.flatten_cons, List.flatten_nil,
      List.append_nil, qualifier, havingSpelled]

theorem Alternative.kinds_text {a : Alternative} (h : a.Printable inner) :
    kinds (a.text ownName) = a.spelled := by
  cases a with
  | named => decide
  | this => decide
  | filter f => exact CardFilter.kinds_text texts h

end Inner

theorem CardMatch.kinds_text {room : Nat} {m : CardMatch} (h : m.Printable room) :
    kinds (m.text ownName) = m.spelled := by
  induction room generalizing m with
  | zero => exact nomatch h
  | succ room ih =>
    rw [text, kinds_enumerate (by decide), alternativeTexts_eq_map, List.map_map, spelled]
    congr 1
    exact List.map_congr_left fun a mem => Alternative.kinds_text (fun _ => ih) (h.2 a mem)

end CardGame
