import CardGame.Card.Basic
import CardGame.Grammar.Match
import CardGame.Proofs.Spelling

/-!
How effects, abilities and cards are spelled: the token kinds of their printed forms, with the
placeholder where a card names itself, and which of them can be printed so.
-/

namespace CardGame

open Text (TokenKind kinds kinds_append_of_opens kinds_append_of_closes kinds_between kinds_join
  kinds_join_empty kinds_enumerate separated enumerated opensApart closesApart)

/-! ### Players, targets and zones -/

def PlayerAlternative.spelled : PlayerAlternative → List TokenKind
  | each => [.word "each", .word "player"]
  | you => [.word "you"]
  | opponent => [.word "your", .word "opponent"]
  | controller => [.word "its", .word "controller"]

def PlayerMatch.spelled (m : PlayerMatch) : List TokenKind :=
  enumerated (.word "or") (m.map PlayerAlternative.spelled)

theorem PlayerMatch.kinds_text (m : PlayerMatch) : kinds m.text = m.spelled := by
  rw [text, kinds_enumerate (by decide), List.map_map, spelled]
  congr 1
  exact List.map_congr_left fun a _ => by cases a <;> decide

def AnyMatch.spelled : AnyMatch → List TokenKind
  | player m => PlayerMatch.spelled m
  | card m => CardMatch.spelled m
  | anyTarget => [.word "any", .word "target"]

/-- A match of cards as deep as parsers go. -/
def CardMatch.IsPrintable (m : CardMatch) : Prop :=
  m.Printable Grammar.maxMatchDepth

def AnyMatch.Printable : AnyMatch → Prop
  | player m => m ≠ []
  | card m => CardMatch.IsPrintable m
  | anyTarget => True

theorem AnyMatch.kinds_text {m : AnyMatch} (h : m.Printable) :
    kinds (m.text ownName) = m.spelled := by
  cases m with
  | player m => exact PlayerMatch.kinds_text m
  | card m => exact CardMatch.kinds_text h
  | anyTarget => decide

def ZoneMatch.spelled (m : ZoneMatch) : List TokenKind :=
  m.map fun z => .word z.word

theorem flatten_map_kinds {α : Type} {text : α → String} {kind : α → TokenKind}
    (single : ∀ a, kinds (text a) = [kind a]) (items : List α) :
    ((items.map text).map kinds).flatten = items.map kind := by
  induction items with
  | nil => rfl
  | cons a items ih => simp only [List.map_cons, List.flatten_cons, ih, single]; rfl

theorem ZoneMatch.kinds_text (m : ZoneMatch) : kinds m.text = m.spelled := by
  have blank : kinds " " = [] := by decide
  rw [text, kinds_join (by decide) (by decide), blank, Text.separated_nil]
  exact flatten_map_kinds (fun z => by cases z <;> decide) m

/-! ### Effects of players -/

namespace PlayerEffect

theorem pluralEnding_eq (q : Quantity) : pluralEnding q = "" ∨ pluralEnding q = "s" := by
  cases q with
  | number n =>
    by_cases single : n = 1
    · exact .inl (if_pos single)
    · exact .inr (if_neg single)
  | one => exact .inl rfl
  | x => exact .inr rfl

def positionSpelled : PutPosition → List TokenKind
  | .top => [.word "on", .word "top", .word "of"]
  | .bottom => [.word "on", .word "the", .word "bottom", .word "of"]
  | .into => [.word "into"]

def wordsIf (present : Bool) (ws : List String) : List TokenKind :=
  if present then ws.map .word else []

def shuffledSpelled : Option CardMatch → List TokenKind
  | some m => CardMatch.spelled m ++ [.word "into"]
  | none => []

def spelled : PlayerEffect → List TokenKind
  | draw n => [.word "draw", n.kind, .word ("card" ++ pluralEnding n)]
  | token n stats kinds subtypes =>
    .word "create" :: n.kind :: (stats.toList.flatMap Stats.spelled
      ++ (kinds.map (fun k => .word k.text) ++ (subtypes.map (fun s => .word s.word)
      ++ [.word ("token" ++ pluralEnding n)])))
  | destroy m => .word "destroy" :: CardMatch.spelled m
  | discard n filter => .word "discard" :: n.kind :: filter.toList.flatMap CardMatch.spelled
  | shuffle objects zone => .word "shuffle" :: (shuffledSpelled objects ++ zone.spelled)
  | look n zone =>
    .word "look" :: .word "at" :: .word "the" :: .word "top" :: n.kind :: .word "cards"
      :: .word "of" :: zone.spelled
  | put objects position zone anyOrder randomOrder deactivated =>
    .word "put" :: (CardMatch.spelled objects ++ (positionSpelled position ++ (zone.spelled
      ++ (wordsIf anyOrder ["in", "any", "order"] ++ (wordsIf randomOrder ["in", "random", "order"]
      ++ wordsIf deactivated ["deactivated"])))))
  | activate m => .word "activate" :: CardMatch.spelled m
  | deactivate m => .word "deactivate" :: CardMatch.spelled m
  | sacrifice m => .word "sacrifice" :: CardMatch.spelled m
  | add essence => .word "add" :: essence.flatMap CostSymbol.spelled
  | payEssence costs => .word "spend" :: costs.flatMap CostSymbol.spelled
  | gainLife n => [.word "gain", n.kind, .word "life"]
  | loseLife n => [.word "lose", n.kind, .word "life"]
  | payLife n => [.word "spend", n.kind, .word "life"]
  | extraTurn n => [.word "take", n.kind, .word "extra", .word ("turn" ++ pluralEnding n)]

/-- An effect whose numbers and matches are printable and whose lists are not empty where they have
to hold something. Tokens are created of any kind but their own. -/
def Printable : PlayerEffect → Prop
  | draw n => n.Printable
  | token n stats kinds _ =>
    n.Printable ∧ (∀ s ∈ stats, s.Printable) ∧ ∀ k ∈ kinds, k.kind ≠ .token
  | destroy m => CardMatch.IsPrintable m
  | discard n filter => n.Printable ∧ ∀ m ∈ filter, CardMatch.IsPrintable m
  | shuffle objects zone => (∀ m ∈ objects, CardMatch.IsPrintable m) ∧ zone ≠ []
  | look n zone => n.Printable ∧ zone ≠ []
  | put objects _ zone _ _ _ => CardMatch.IsPrintable objects ∧ zone ≠ []
  | activate m => CardMatch.IsPrintable m
  | deactivate m => CardMatch.IsPrintable m
  | sacrifice m => CardMatch.IsPrintable m
  | add essence => essence ≠ [] ∧ ∀ c ∈ essence, c.Printable
  | payEssence costs => costs ≠ [] ∧ ∀ c ∈ costs, c.Printable
  | gainLife n => n.Printable
  | loseLife n => n.Printable
  | payLife n => n.Printable
  | extraTurn n => n.Printable

theorem positionText_kinds (p : PutPosition) : kinds (positionText p) = positionSpelled p := by
  cases p <;> decide

theorem kinds_amount {before after : String} {q : Quantity} (h : q.Printable)
    (closes : closesApart before.toList) (opens : opensApart after.toList) :
    kinds (before ++ q.text ++ after) = kinds before ++ q.kind :: kinds after := by
  rw [kinds_append_of_opens opens, kinds_append_of_closes closes, Quantity.kinds_text h]
  simp

theorem kinds_object {m : CardMatch} {verb : String} {w : String} (h : m.IsPrintable)
    (closes : closesApart verb.toList) (word : kinds verb = [.word w]) :
    kinds (verb ++ m.text ownName) = .word w :: m.spelled := by
  rw [kinds_append_of_closes closes, word, CardMatch.kinds_text h]
  rfl

theorem kinds_symbols {cs : List CostSymbol} {verb : String} {w : String}
    (h : ∀ c ∈ cs, c.Printable) (closes : closesApart verb.toList)
    (word : kinds verb = [.word w]) :
    kinds (verb ++ Text.join "" (cs.map CostSymbol.text)) =
      .word w :: cs.flatMap CostSymbol.spelled := by
  rw [kinds_append_of_closes closes, word, CostSymbol.kinds_join_text h]
  rfl

theorem kinds_token {n : Quantity} {stats : Option Stats} {kindWords : List KindWord}
    (subtypes : List CardSubtype) (number : n.Printable) (values : ∀ s ∈ stats, s.Printable) :
    kinds ((token n stats kindWords subtypes).text ownName) =
      (token n stats kindWords subtypes).spelled := by
  have blank : kinds " " = [] := by decide
  have verb : kinds "create" = [.word "create"] := by decide
  have noun : kinds ("token" ++ pluralEnding n) = [.word ("token" ++ pluralEnding n)] := by
    rcases pluralEnding_eq n with ending | ending <;> rw [ending] <;> decide
  have printed : (stats.toList.map Stats.text).map kinds = stats.toList.map Stats.spelled := by
    cases stats with
    | none => rfl
    | some s => simp [Stats.kinds_text (values s rfl)]
  show kinds (Text.join " " (["create", n.text] ++ stats.toList.map Stats.text
    ++ kindWords.map KindWord.text ++ subtypes.map CardSubtype.word
    ++ ["token" ++ pluralEnding n])) = _
  rw [kinds_join (by decide) (by decide), blank, Text.separated_nil, spelled]
  simp only [List.map_append, List.flatten_append, printed, ← List.flatMap_def, List.append_assoc,
    flatten_map_kinds KindWord.kinds_text, flatten_map_kinds CardSubtype.kinds_word]
  simp [verb, noun, Quantity.kinds_text number]

theorem kinds_discard {n : Quantity} {filter : Option CardMatch} (number : n.Printable)
    (cards : ∀ m ∈ filter, CardMatch.IsPrintable m) :
    kinds ((discard n filter).text ownName) = (discard n filter).spelled := by
  have blank : kinds " " = [] := by decide
  have verb : kinds "discard" = [.word "discard"] := by decide
  show kinds (Text.join " " (["discard", n.text] ++ filter.toList.map (CardMatch.text ownName))) =
    _
  rw [kinds_join (by decide) (by decide), blank, Text.separated_nil, spelled]
  cases filter with
  | none => simp [verb, Quantity.kinds_text number]
  | some m => simp [verb, Quantity.kinds_text number, CardMatch.kinds_text (cards m rfl)]

theorem kinds_shuffle {objects : Option CardMatch} (zone : ZoneMatch)
    (cards : ∀ m ∈ objects, CardMatch.IsPrintable m) :
    kinds ((shuffle objects zone).text ownName) = (shuffle objects zone).spelled := by
  have verb : kinds "shuffle " = [.word "shuffle"] := by decide
  have before : kinds " into " = [.word "into"] := by decide
  cases objects with
  | none =>
    show kinds ("shuffle " ++ "" ++ zone.text) = _
    rw [String.append_empty, kinds_append_of_closes (by decide), verb, zone.kinds_text]
    rfl
  | some m =>
    show kinds ("shuffle " ++ (CardMatch.text ownName m ++ " into ") ++ zone.text) = _
    rw [← String.append_assoc, kinds_between _ _ (by decide) (by decide), before,
      kinds_append_of_closes (by decide), verb, CardMatch.kinds_text (cards m rfl),
      zone.kinds_text]
    simp [spelled, shuffledSpelled]

theorem kinds_look {n : Quantity} (zone : ZoneMatch) (number : n.Printable) :
    kinds ((look n zone).text ownName) = (look n zone).spelled := by
  have before : kinds "look at the top " =
      [.word "look", .word "at", .word "the", .word "top"] := by decide
  have after : kinds " cards of " = [.word "cards", .word "of"] := by decide
  have closes : closesApart ("look at the top " ++ n.text ++ " cards of ").toList := by
    rw [String.toList_append]
    exact Text.closesApart_append (by decide)
  show kinds ("look at the top " ++ n.text ++ " cards of " ++ zone.text) = _
  rw [kinds_append_of_closes closes, kinds_amount number (by decide) (by decide), before, after,
    zone.kinds_text]
  rfl

theorem kinds_wordsIf (present : Bool) {text : String} (ws : List String)
    (words : kinds text = ws.map .word) :
    kinds (if present then text else "") = wordsIf present ws := by
  cases present with
  | false =>
    show kinds "" = []
    decide
  | true => exact words

theorem kinds_put {objects : CardMatch} (position : PutPosition) (zone : ZoneMatch)
    (anyOrder randomOrder deactivated : Bool) (cards : objects.IsPrintable) :
    kinds ((put objects position zone anyOrder randomOrder deactivated).text ownName) =
      (put objects position zone anyOrder randomOrder deactivated).spelled := by
  have verb : kinds "put " = [.word "put"] := by decide
  have blank : kinds " " = [] := by decide
  show kinds ("put " ++ CardMatch.text ownName objects ++ " " ++ positionText position ++ " "
    ++ zone.text ++ (if anyOrder then " in any order" else "")
    ++ (if randomOrder then " in random order" else "")
    ++ (if deactivated then " deactivated" else "")) = _
  rw [kinds_append_of_opens (by cases deactivated <;> decide),
    kinds_append_of_opens (by cases randomOrder <;> decide),
    kinds_append_of_opens (by cases anyOrder <;> decide),
    kinds_between _ _ (by decide) (by decide), kinds_between _ _ (by decide) (by decide),
    kinds_append_of_closes (by decide), verb, blank, CardMatch.kinds_text cards, zone.kinds_text,
    positionText_kinds, kinds_wordsIf anyOrder ["in", "any", "order"] (by decide),
    kinds_wordsIf randomOrder ["in", "random", "order"] (by decide),
    kinds_wordsIf deactivated ["deactivated"] (by decide)]
  simp [spelled]

theorem kinds_counted {n : Quantity} (verb noun : String) (h : n.Printable)
    (closes : closesApart verb.toList)
    (opens : ∀ ending ∈ ["", "s"], opensApart (noun ++ ending).toList) :
    kinds (verb ++ n.text ++ noun ++ pluralEnding n) =
      kinds verb ++ n.kind :: kinds (noun ++ pluralEnding n) := by
  rw [String.append_assoc]
  refine kinds_amount h closes ?_
  rcases pluralEnding_eq n with ending | ending <;> rw [ending] <;> exact opens _ (by simp)

theorem kinds_text {e : PlayerEffect} (h : e.Printable) : kinds (e.text ownName) = e.spelled := by
  cases e with
  | draw n =>
    refine (kinds_counted "draw " " card" h (by decide) (by decide)).trans ?_
    rcases pluralEnding_eq n with ending | ending <;> rw [spelled, ending] <;> rfl
  | token n stats kindWords subtypes => exact kinds_token subtypes h.1 h.2.1
  | destroy m => exact kinds_object h (by decide) (by decide)
  | discard n filter => exact kinds_discard h.1 h.2
  | shuffle objects zone => exact kinds_shuffle zone h.1
  | look n zone => exact kinds_look zone h.1
  | put objects position zone anyOrder randomOrder deactivated =>
    exact kinds_put position zone anyOrder randomOrder deactivated h.1
  | activate m => exact kinds_object h (by decide) (by decide)
  | deactivate m => exact kinds_object h (by decide) (by decide)
  | sacrifice m => exact kinds_object h (by decide) (by decide)
  | add essence => exact kinds_symbols h.2 (by decide) (by decide)
  | payEssence costs => exact kinds_symbols h.2 (by decide) (by decide)
  | gainLife n => exact kinds_amount h (by decide) (by decide)
  | loseLife n => exact kinds_amount h (by decide) (by decide)
  | payLife n => exact kinds_amount h (by decide) (by decide)
  | extraTurn n =>
    refine (kinds_counted "take " " extra turn" h (by decide) (by decide)).trans ?_
    rcases pluralEnding_eq n with ending | ending <;> rw [spelled, ending] <;> rfl

end PlayerEffect

/-! ### Effects of cards -/

def Sign.kind : Sign → TokenKind
  | plus => .mark '+'
  | minus => .mark '-'

namespace CardEffect

def spelled : CardEffect → List TokenKind
  | damage n target =>
    .word "deals" :: n.kind :: .word "damage" :: .word "to" :: target.spelled
  | gets powerSign power healthSign health =>
    [.word "gets", powerSign.kind, power.kind, .mark '/', healthSign.kind, health.kind]
  | attack => [.word "attacks"]

def Printable : CardEffect → Prop
  | damage n target => n.Printable ∧ target.Printable
  | gets _ power _ health => power.Printable ∧ health.Printable
  | attack => False

theorem kinds_text {e : CardEffect} (h : e.Printable) : kinds (e.text ownName) = e.spelled := by
  cases e with
  | damage n target =>
    have verb : kinds "deals " = [.word "deals"] := by decide
    have before : kinds " damage to " = [.word "damage", .word "to"] := by decide
    rw [text, kinds_between _ _ (by decide) (by decide), kinds_append_of_closes (by decide), verb,
      before, Quantity.kinds_text h.1, AnyMatch.kinds_text h.2]
    rfl
  | gets powerSign power healthSign health =>
    have verb (s : Sign) : kinds ("gets " ++ s.text) = [.word "gets", s.kind] := by
      cases s <;> decide
    have sign (s : Sign) : kinds s.text = [s.kind] := by cases s <;> decide
    have stroke : kinds "/" = [.mark '/'] := by decide
    have closes (s : Sign) (before : String) : closesApart (before ++ s.text).toList := by
      rw [String.toList_append]
      exact Text.closesApart_append (by cases s <;> decide)
    rw [text, kinds_append_of_closes (closes healthSign _),
      kinds_append_of_opens (by cases healthSign <;> decide), kinds_append_of_opens (by decide),
      kinds_append_of_closes (closes powerSign _), verb, sign, stroke,
      Quantity.kinds_text h.1, Quantity.kinds_text h.2]
    rfl
  | attack => exact nomatch h

end CardEffect

/-! ### Clauses -/

def thenSpelled : List TokenKind :=
  [.mark ',', .word "then"]

theorem kinds_join_then {items : List String} :
    kinds (Text.join ", then " items) = separated thenSpelled (items.map kinds) :=
  kinds_join (by decide) (by decide) items

namespace Effect

def playersSpelled (optional : Bool) : Option PlayerMatch → List TokenKind
  | some m => PlayerMatch.spelled m ++ (if optional then [.word "may"] else [])
  | none => []

def spelled : Effect → List TokenKind
  | player subject optional effects =>
    playersSpelled optional subject ++ separated thenSpelled (effects.map PlayerEffect.spelled)
  | card subject effects =>
    subject.toList.flatMap CardMatch.spelled
      ++ separated thenSpelled (effects.map CardEffect.spelled)

/-- A clause with a printable subject and some printable effects. Only named players may decline. -/
def Printable : Effect → Prop
  | player subject optional effects =>
    (∀ m ∈ subject, m ≠ []) ∧ (optional → subject.isSome) ∧ effects ≠ [] ∧
      ∀ e ∈ effects, e.Printable
  | card subject effects =>
    (∀ m ∈ subject, CardMatch.IsPrintable m) ∧ effects ≠ [] ∧ ∀ e ∈ effects, e.Printable

theorem kinds_text {e : Effect} (h : e.Printable) : kinds (e.text ownName) = e.spelled := by
  have blank : kinds " " = [] := by decide
  cases e with
  | player subject optional effects =>
    have parts : (effects.map (PlayerEffect.text ownName)).map kinds =
        effects.map PlayerEffect.spelled := by
      rw [List.map_map]
      exact List.map_congr_left fun e mem => PlayerEffect.kinds_text (h.2.2.2 e mem)
    cases subject with
    | none =>
      show kinds ("" ++ Text.join ", then " (effects.map (PlayerEffect.text ownName))) = _
      rw [String.empty_append, kinds_join_then, parts]
      rfl
    | some m =>
      have joint : kinds (if optional then " may " else " ") =
          if optional then [.word "may"] else [] := by cases optional <;> decide
      show kinds (PlayerMatch.text m ++ (if optional then " may " else " ")
        ++ Text.join ", then " (effects.map (PlayerEffect.text ownName))) = _
      rw [kinds_between _ _ (by cases optional <;> decide) (by cases optional <;> decide), joint,
        PlayerMatch.kinds_text, kinds_join_then, parts]
      simp [spelled, playersSpelled]
  | card subject effects =>
    have parts : (effects.map (CardEffect.text ownName)).map kinds =
        effects.map CardEffect.spelled := by
      rw [List.map_map]
      exact List.map_congr_left fun e mem => CardEffect.kinds_text (h.2.2 e mem)
    cases subject with
    | none =>
      show kinds ("" ++ Text.join ", then " (effects.map (CardEffect.text ownName))) = _
      rw [String.empty_append, kinds_join_then, parts]
      rfl
    | some m =>
      show kinds (CardMatch.text ownName m ++ " "
        ++ Text.join ", then " (effects.map (CardEffect.text ownName))) = _
      rw [kinds_between _ _ (by decide) (by decide), blank, CardMatch.kinds_text (h.1 m rfl),
        kinds_join_then, parts]
      simp [spelled]

end Effect

/-! ### Abilities -/

def Composed.spelled (c : Composed) : List TokenKind :=
  separated thenSpelled (c.effects.map Effect.spelled) ++ [.mark '.']

def Composed.Printable (c : Composed) : Prop :=
  c.effects ≠ [] ∧ ∀ e ∈ c.effects, e.Printable

theorem Composed.kinds_text {c : Composed} (h : c.Printable) :
    kinds (c.text ownName) = c.spelled := by
  have stop : kinds "." = [.mark '.'] := by decide
  rw [text, kinds_append_of_opens (by decide), kinds_join_then, stop, List.map_map, spelled]
  exact congrArg (separated thenSpelled · ++ _)
    (List.map_congr_left fun e mem => Effect.kinds_text (h.2 e mem))

def AbilityCost.spelled : AbilityCost → List TokenKind
  | symbol c => c.spelled
  | effect e => e.spelled

def AbilityCost.Printable : AbilityCost → Prop
  | symbol c => c.Printable
  | effect e => e.Printable

theorem AbilityCost.kinds_text {c : AbilityCost} (h : c.Printable) :
    kinds (c.text ownName) = c.spelled := by
  cases c with
  | symbol c => exact CostSymbol.kinds_text h
  | effect e => exact Effect.kinds_text h

def Activated.spelled (a : Activated) : List TokenKind :=
  a.costs.flatMap AbilityCost.spelled ++ .mark ':' :: a.effect.spelled

def Activated.Printable (a : Activated) : Prop :=
  a.costs ≠ [] ∧ (∀ c ∈ a.costs, c.Printable) ∧ a.effect.Printable

theorem Activated.kinds_text {a : Activated} (h : a.Printable) :
    kinds (a.text ownName) = a.spelled := by
  have blank : kinds " " = [] := by decide
  have colon : kinds ": " = [.mark ':'] := by decide
  have costs : ((a.costs.map (AbilityCost.text ownName)).map kinds).flatten =
      a.costs.flatMap AbilityCost.spelled := by
    rw [List.map_map, List.flatMap_def]
    exact congrArg List.flatten
      (List.map_congr_left fun c mem => AbilityCost.kinds_text (h.2.1 c mem))
  rw [text, kinds_between _ _ (by decide) (by decide), kinds_join (by decide) (by decide), blank,
    Text.separated_nil, costs, colon, Composed.kinds_text h.2.2]
  rfl

def Condition.spelled : Condition → List TokenKind
  | yourTurn => [.word "it", .mark '\'', .word "s", .word "your", .word "turn"]
  | notYourTurn => [.word "it", .mark '\'', .word "s", .word "not", .word "your", .word "turn"]
  | player who (.sacrifice m) => who.spelled ++ .word "sacrifices" :: CardMatch.spelled m
  | player who .draw => who.spelled ++ [.word "draws", .word "a", .word "card"]
  | card which .entersBoard =>
    which.spelled ++ [.word "is", .word "put", .word "on", .word "the", .word "board"]
  | card which .leavesBoard => which.spelled ++ [.word "leaves", .word "the", .word "board"]
  | numerical stat comparison => .word stat.word :: .word "is" :: comparison.spelled

def Condition.Printable : Condition → Prop
  | player who (.sacrifice m) => who ≠ [] ∧ CardMatch.IsPrintable m
  | player who .draw => who ≠ []
  | card which _ => CardMatch.IsPrintable which
  | numerical _ comparison => comparison.count.Printable CardMatch.IsPrintable
  | _ => True

theorem Condition.kinds_text {c : Condition} (h : c.Printable) :
    kinds (c.text ownName) = c.spelled := by
  cases c with
  | yourTurn => decide
  | notYourTurn => decide
  | player who action =>
    cases action with
    | sacrifice m =>
      have between : kinds " sacrifices " = [.word "sacrifices"] := by decide
      rw [text, kinds_between _ _ (by decide) (by decide), between, PlayerMatch.kinds_text,
        CardMatch.kinds_text h.2]
      rfl
    | draw =>
      have after : kinds " draws a card" = [.word "draws", .word "a", .word "card"] := by decide
      rw [text, kinds_append_of_opens (by decide), after, PlayerMatch.kinds_text]
      rfl
  | card which action =>
    cases action with
    | entersBoard =>
      have after : kinds " is put on the board" =
          [.word "is", .word "put", .word "on", .word "the", .word "board"] := by decide
      rw [text, kinds_append_of_opens (by decide), after, CardMatch.kinds_text h]
      rfl
    | leavesBoard =>
      have after : kinds " leaves the board" = [.word "leaves", .word "the", .word "board"] := by
        decide
      rw [text, kinds_append_of_opens (by decide), after, CardMatch.kinds_text h]
      rfl
  | numerical stat comparison =>
    have word : kinds stat.word = [.word stat.word] := by cases stat <;> decide
    have between : kinds " is " = [.word "is"] := by decide
    rw [text, kinds_between _ _ (by decide) (by decide), word, between,
      Comparison.kinds_text (fun _ => CardMatch.kinds_text) h]
    rfl

def Trigger.eventSpelled : Trigger → List TokenKind
  | play m => .word "you" :: .word "play" :: CardMatch.spelled m
  | gainLife m => PlayerMatch.spelled m ++ [.word "gains", .word "life"]
  | loseLife m => PlayerMatch.spelled m ++ [.word "loses", .word "life"]
  | dealtDamage m => CardMatch.spelled m ++ [.word "is", .word "dealt", .word "damage"]
  | condition c => c.spelled

def Trigger.spelled (t : Trigger) : List TokenKind :=
  .word "when" :: t.eventSpelled

def Trigger.Printable : Trigger → Prop
  | play m => CardMatch.IsPrintable m
  | gainLife m => m ≠ []
  | loseLife m => m ≠ []
  | dealtDamage m => CardMatch.IsPrintable m
  | condition c => c.Printable

theorem Trigger.kinds_text {t : Trigger} (h : t.Printable) :
    kinds (t.text ownName) = t.spelled := by
  have when (s : String) : kinds ("when " ++ s) = .word "when" :: kinds s :=
    kinds_append_of_closes (by decide)
  cases t with
  | play m =>
    show kinds ("when " ++ ("you play " ++ CardMatch.text ownName m)) = _
    rw [when, kinds_append_of_closes (by decide), CardMatch.kinds_text h]
    rfl
  | gainLife m =>
    show kinds ("when " ++ (PlayerMatch.text m ++ " gains life")) = _
    rw [when, kinds_append_of_opens (by decide), PlayerMatch.kinds_text]
    rfl
  | loseLife m =>
    show kinds ("when " ++ (PlayerMatch.text m ++ " loses life")) = _
    rw [when, kinds_append_of_opens (by decide), PlayerMatch.kinds_text]
    rfl
  | dealtDamage m =>
    show kinds ("when " ++ (CardMatch.text ownName m ++ " is dealt damage")) = _
    rw [when, kinds_append_of_opens (by decide), CardMatch.kinds_text h]
    rfl
  | condition c =>
    show kinds ("when " ++ c.text ownName) = _
    rw [when, Condition.kinds_text h]
    rfl

def Triggered.spelled (t : Triggered) : List TokenKind :=
  t.trigger.spelled ++ .mark ',' :: t.effect.spelled

def Triggered.Printable (t : Triggered) : Prop :=
  t.trigger.Printable ∧ t.effect.Printable

theorem Triggered.kinds_text {t : Triggered} (h : t.Printable) :
    kinds (t.text ownName) = t.spelled := by
  have comma : kinds ", " = [.mark ','] := by decide
  rw [text, kinds_between _ _ (by decide) (by decide), Trigger.kinds_text h.1, comma,
    Composed.kinds_text h.2]
  rfl

def Ability.spelled : Ability → List TokenKind
  | keyword k => [.word k.word]
  | composed c => c.spelled
  | activated a => a.spelled
  | triggered t => t.spelled

def Ability.Printable : Ability → Prop
  | keyword _ => True
  | composed c => c.Printable
  | activated a => a.Printable
  | triggered t => t.Printable

theorem Ability.kinds_text {a : Ability} (h : a.Printable) :
    kinds (a.text ownName) = a.spelled := by
  cases a with
  | keyword k => exact k.kinds_word
  | composed c => exact Composed.kinds_text h
  | activated a => exact Activated.kinds_text h
  | triggered t => exact Triggered.kinds_text h

/-! ### Cards -/

def subtypesSpelled (subtypes : List CardSubtype) : List TokenKind :=
  if subtypes.isEmpty then [] else .mark '-' :: subtypes.map fun s => .word s.word

namespace Card

def spelled (c : Card) : List TokenKind :=
  .word ownName :: (c.costs.flatMap CostSymbol.spelled
    ++ (c.kinds.map (fun k => .word k.text) ++ (subtypesSpelled c.subtypes
    ++ (c.abilities.flatMap Ability.spelled ++ c.stats.toList.flatMap Stats.spelled))))

structure Printable (c : Card) : Prop where
  costs : ∀ s ∈ c.costs, s.Printable
  kinds : c.kinds ≠ []
  abilities : ∀ a ∈ c.abilities, a.Printable
  stats : ∀ s ∈ c.stats, s.Printable

/-- A card under the placeholder for its name. -/
def anonymous (c : Card) : Card :=
  { c with name := ownName }

def headText (c : Card) : String :=
  c.name ++ if c.costs.isEmpty then "" else " " ++ Text.join "" (c.costs.map CostSymbol.text)

def lineText (c : Card) : String :=
  Text.join " " (c.kinds.map KindWord.text)
    ++ if c.subtypes.isEmpty then "" else " - " ++ Text.join " " (c.subtypes.map CardSubtype.word)

theorem text_eq (c : Card) :
    c.text = Text.join "\n" ([c.headText, c.lineText] ++ c.abilities.map (Ability.text c.name)
      ++ c.stats.toList.map Stats.text) := rfl

theorem kinds_headText {c : Card} (h : c.Printable) :
    Text.kinds c.anonymous.headText = .word ownName :: c.costs.flatMap CostSymbol.spelled := by
  have name : Text.kinds ownName = [.word ownName] := by decide
  have blank : Text.kinds " " = [] := by decide
  cases costs : c.costs with
  | nil => simp [headText, anonymous, costs, name]
  | cons s rest =>
    have symbols := CostSymbol.kinds_join_text h.costs
    rw [costs] at symbols
    simp only [headText, anonymous, costs, List.isEmpty_cons, Bool.false_eq_true, if_false]
    rw [← String.append_assoc, kinds_between _ _ (by decide) (by decide), name, blank, symbols]
    rfl

theorem kinds_lineText (c : Card) :
    Text.kinds c.lineText = c.kinds.map (fun k => .word k.text) ++ subtypesSpelled c.subtypes := by
  have blank : Text.kinds " " = [] := by decide
  have dash : Text.kinds " - " = [.mark '-'] := by decide
  have kindWords : Text.kinds (Text.join " " (c.kinds.map KindWord.text)) =
      c.kinds.map fun k => .word k.text := by
    rw [kinds_join (by decide) (by decide), blank, Text.separated_nil,
      flatten_map_kinds KindWord.kinds_text]
  have subtypeWords : Text.kinds (Text.join " " (c.subtypes.map CardSubtype.word)) =
      c.subtypes.map fun s => .word s.word := by
    rw [kinds_join (by decide) (by decide), blank, Text.separated_nil,
      flatten_map_kinds CardSubtype.kinds_word]
  unfold lineText subtypesSpelled
  split
  · rw [String.append_empty, kindWords, List.append_nil]
  · rw [← String.append_assoc, kinds_between _ _ (by decide) (by decide), kindWords, dash,
      subtypeWords]
    rfl

theorem kinds_text {c : Card} (h : c.Printable) : Text.kinds c.anonymous.text = c.spelled := by
  have newline : Text.kinds "\n" = [] := by decide
  have sentences : ((c.anonymous.abilities.map (Ability.text c.anonymous.name)).map
      Text.kinds).flatten = c.abilities.flatMap Ability.spelled := by
    rw [List.map_map, List.flatMap_def]
    exact congrArg List.flatten
      (List.map_congr_left fun a mem => Ability.kinds_text (h.abilities a mem))
  have printed : ((c.anonymous.stats.toList.map Stats.text).map Text.kinds).flatten =
      c.stats.toList.flatMap Stats.spelled := by
    cases stats : c.stats with
    | none => simp [anonymous, stats]
    | some s => simp [anonymous, stats, Stats.kinds_text (h.stats s stats)]
  rw [text_eq, kinds_join (by decide) (by decide), newline, Text.separated_nil, spelled]
  simp only [List.map_append, List.flatten_append, List.map_cons, List.map_nil, List.flatten_cons,
    List.flatten_nil, kinds_headText h, kinds_lineText, sentences, printed]
  simp [anonymous]

end Card

end CardGame
