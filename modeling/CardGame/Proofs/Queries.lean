import CardGame.Game.Cost
import CardGame.Proofs.Zones

/-!
What queries read, and what they find. They read the cards, the players and the stack, so a question
to a player changes no answer; and they find only cards of the game, since zones hold nothing else.
Of the order of a search matches see where each card comes first, and of the stack what is targeted
from where.
-/

namespace CardGame

section Repetitions

variable {α β : Type} [BEq α] [LawfulBEq α]

theorem eraseDups_filter (meant : α → Bool) (l : List α) :
    (l.filter meant).eraseDups = l.eraseDups.filter meant := by
  suffices sized : ∀ n, ∀ l : List α, l.length ≤ n →
    (l.filter meant).eraseDups = l.eraseDups.filter meant from
    sized l.length l (Nat.le_refl _)
  intro n
  induction n with
  | zero =>
    intro l size
    rw [List.eq_nil_of_length_eq_zero (Nat.le_zero.1 size)]
    rfl
  | succ n ih =>
    intro l size
    cases l with
    | nil => rfl
    | cons a rest =>
      have less :=
        Nat.le_trans (List.length_filter_le (fun b => !b == a) rest) (Nat.le_of_succ_le_succ size)
      rw [List.eraseDups_cons, List.filter_cons, List.filter_cons]
      split
      · rw [List.eraseDups_cons, ← ih _ less, List.filter_filter, List.filter_filter]
        simp only [Bool.and_comm]
      · next other =>
        -- what equals the head is not meant either
        rw [← ih _ less, List.filter_filter]
        refine congrArg List.eraseDups (List.filter_congr fun b _ => ?_)
        by_cases same : b = a
        · rw [same, Bool.eq_false_iff.2 other, Bool.false_and]
        · simp [same]

theorem find?_eq_head?_eraseDups (meant : α → Bool) (l : List α) :
    l.find? meant = (l.eraseDups.filter meant).head? := by
  rw [← eraseDups_filter, ← List.head?_filter]
  cases l.filter meant with
  | nil => rfl
  | cons a rest => rw [List.eraseDups_cons, List.head?_cons, List.head?_cons]

theorem eraseDups_append_congr {l k l' k' : List α} (first : l'.eraseDups = l.eraseDups)
    (next : k'.eraseDups = k.eraseDups) : (l' ++ k').eraseDups = (l ++ k).eraseDups := by
  have rest : k'.removeAll l' = k'.removeAll l := by
    refine List.filter_congr fun b _ => congrArg not ?_
    rw [Bool.eq_iff_iff, List.elem_iff, List.elem_iff, ← List.mem_eraseDups, first,
      List.mem_eraseDups]
  rw [List.eraseDups_append, List.eraseDups_append, first, rest, List.removeAll, List.removeAll,
    eraseDups_filter, eraseDups_filter, next]

theorem eraseDups_flatMap_congr {f f' : β → List α} {l : List β}
    (each : ∀ b ∈ l, (f' b).eraseDups = (f b).eraseDups) :
    (l.flatMap f').eraseDups = (l.flatMap f).eraseDups := by
  induction l with
  | nil => rfl
  | cons b rest ih =>
    rw [List.flatMap_cons, List.flatMap_cons]
    exact eraseDups_append_congr (each b (.head _)) (ih fun c mem => each c (.tail _ mem))

theorem eraseDups_append_of_subset {l k : List α} (known : k ⊆ l) :
    (l ++ k).eraseDups = l.eraseDups := by
  have none : k.removeAll l = [] := by
    refine List.filter_eq_nil_iff.2 fun b mem => ?_
    simpa using known mem
  rw [List.eraseDups_append, none]
  exact List.append_nil _

end Repetitions

/-- Two games that look alike to matches of cards: the same cards, which searches meet in the same
order, and the same targets of the uses that wait. -/
structure SameSights (g h : Game) : Prop where
  cards : h.cards = g.cards
  searched : (h.searchedCards none).eraseDups = (g.searchedCards none).eraseDups
  targeted : ∀ c, (h.stack.sourcedBy c).flatMap (·.targeting) =
    (g.stack.sourcedBy c).flatMap (·.targeting)

namespace SameSights

variable {g h : Game}

theorem refl (g : Game) : SameSights g g :=
  ⟨rfl, rfl, fun _ => rfl⟩

theorem trans {f : Game} (first : SameSights f g) (next : SameSights g h) : SameSights f h :=
  ⟨next.cards.trans first.cards, next.searched.trans first.searched,
    fun c => (next.targeted c).trans (first.targeted c)⟩

theorem card? (same : SameSights g h) (c : CardId) : h.card? c = g.card? c := by
  rw [Game.card?, Game.card?, same.cards]

mutual

theorem alternativeHolds (same : SameSights g h) (u : AbilityUse) (mode : MatchMode)
    (a : Alternative) (c : CardId) :
    h.alternativeHolds u mode a c = g.alternativeHolds u mode a c := by
  cases a with
  | named => simp only [Game.alternativeHolds]
  | this => simp only [Game.alternativeHolds]
  | filter f => simp only [Game.alternativeHolds, same.card?, same.filterHolds u mode f]

theorem filterHolds (same : SameSights g h) (u : AbilityUse) (mode : MatchMode) (f : CardFilter)
    (c : CardId) (i : CardInstance) : h.filterHolds u mode f c i = g.filterHolds u mode f c i := by
  obtain ⟨chosen, traits, without, has, targeting⟩ := f
  cases has with
  | none => simp only [Game.filterHolds, same.targetingHolds u mode targeting]
  | some k =>
    simp only [Game.filterHolds, same.targetingHolds u mode targeting, same.havingHolds u mode k]

theorem havingHolds (same : SameSights g h) (u : AbilityUse) (mode : MatchMode) (k : Having)
    (i : CardInstance) : h.havingHolds u mode k i = g.havingHolds u mode k i := by
  cases k with
  | keywords ks => simp only [Game.havingHolds]
  | comparison s c => simp only [Game.havingHolds, same.comparisonHolds u mode c]

theorem comparisonHolds (same : SameSights g h) (u : AbilityUse) (mode : MatchMode) (c : Comparison)
    (value : Amount) : h.comparisonHolds u mode c value = g.comparisonHolds u mode c value := by
  obtain ⟨lead, n, trail⟩ := c
  simp only [Game.comparisonHolds, same.countValue u mode n]

theorem countValue (same : SameSights g h) (u : AbilityUse) (mode : MatchMode) :
    ∀ n : Count, h.countValue u mode n = g.countValue u mode n
  | .numberOf m => by
    simp only [Game.countValue, eraseDups_filter, same.searched, funext (same.cardHolds u mode m)]
  | .attribute owner s => by
    simp only [Game.countValue, find?_eq_head?_eraseDups, same.searched,
      funext (same.cardHolds u mode owner), funext same.card?]
  | .value q => by simp only [Game.countValue]

theorem cardHolds (same : SameSights g h) (u : AbilityUse) (mode : MatchMode) (m : List Alternative)
    (c : CardId) : h.cardHolds u mode m c = g.cardHolds u mode m c := by
  cases m with
  | nil => simp only [Game.cardHolds]
  | cons a rest =>
    simp only [Game.cardHolds, same.alternativeHolds u mode a, same.cardHolds u mode rest]

theorem targetingHolds (same : SameSights g h) (u : AbilityUse) (mode : MatchMode)
    (ms : List (List Alternative)) (c : CardId) :
    h.targetingHolds u mode ms c = g.targetingHolds u mode ms c := by
  cases ms with
  | nil => simp only [Game.targetingHolds]
  | cons m rest =>
    simp only [Game.targetingHolds, ← List.any_flatMap, same.targeted,
      funext (same.cardHolds u mode m), same.targetingHolds u mode rest]

end

variable (same : SameSights g h) (u : AbilityUse)
include same

theorem controllersOfThis : h.controllersOfThis u = g.controllersOfThis u := by
  simp only [Game.controllersOfThis, funext same.card?]

theorem playerHolds (m : PlayerMatch) : h.playerHolds u m = g.playerHolds u m := by
  funext p
  simp only [Game.playerHolds, same.controllersOfThis]

end SameSights

structure SameTable (g h : Game) : Prop where
  cards : h.cards = g.cards
  players : h.players = g.players
  stack : h.stack = g.stack

theorem Talks.sameTable {p : PlayerId} {g h : Game} (talks : Talks p g h) : SameTable g h := by
  constructor <;> rw [talks.frame]

namespace SameTable

variable {g h : Game} (same : SameTable g h)
include same

theorem card? (c : CardId) : h.card? c = g.card? c := by
  rw [Game.card?, Game.card?, same.cards]

theorem player (p : PlayerId) : h.player p = g.player p := by
  rw [Game.player, Game.player, same.players]

theorem cardsIn : h.cardsIn = g.cardsIn := by
  funext p s z
  cases z with
  | stack => simp only [Game.cardsIn, same.stack, same.card?]
  | _ => rfl

theorem searchedCards (zones : Option ZoneMatch) :
    h.searchedCards zones = g.searchedCards zones := by
  simp only [Game.searchedCards, same.players, same.cardsIn]

theorem sights : SameSights g h :=
  ⟨same.cards, congrArg List.eraseDups (same.searchedCards none), fun c => by rw [same.stack]⟩

variable (u : AbilityUse) (mode : MatchMode)

theorem holds (m : Match) (o : ObjectRef) : h.holds u mode m o = g.holds u mode m o := by
  cases m with
  | player m => simp only [Game.holds, same.sights.playerHolds]
  | card m => simp only [Game.holds, funext (same.sights.cardHolds u mode m)]
  | any m =>
    cases m <;>
      simp only [Game.holds, Game.anyHolds, same.sights.playerHolds,
        funext (same.sights.cardHolds u mode _)]

theorem objectsOf (m : Match) (zones : Option ZoneMatch) :
    h.objectsOf u m zones mode = g.objectsOf u m zones mode := by
  simp only [Game.objectsOf, same.searchedCards, same.players, funext (same.holds u mode m)]

theorem query (m : Option Match) (zones : Option ZoneMatch) (limit : Option Nat) :
    h.query u m zones limit mode = g.query u m zones limit mode := by
  unfold Game.query
  split
  · rfl
  · exact same.objectsOf u mode _ zones
  · rw [same.objectsOf u mode]

omit mode

theorem candidateCount (e : PlannedEffect) : h.candidateCount u e = g.candidateCount u e := by
  simp only [Game.candidateCount, same.query, same.card?]

theorem billEffect : h.billEffect u = g.billEffect u := by
  funext bill e
  simp only [Game.billEffect, same.candidateCount u e, same.player]

omit u

theorem canPay (c : CardId) (costs : List CostSymbol) (x : Amount) :
    h.canPay c costs x = g.canPay c costs x := by
  simp only [Game.canPay, same.card?, same.player]

theorem canPayAbility (p : PlayerId) (c : CardId) (a : Activated) (x : Amount) :
    h.canPayAbility p c a x = g.canPayAbility p c a x := by
  simp only [Game.canPayAbility, Game.canPayEffects, same.canPay, same.players, same.billEffect]

end SameTable

theorem Game.toList_players (g : Game) :
    g.players.toList = (List.range g.players.count).map fun k => (⟨k⟩, g.player ⟨k⟩) := by
  refine List.ext_getElem (by simp [Seats.toList, Seats.count]) fun k inRange _ => ?_
  have seated : k < g.players.entries.length := by simpa [Seats.toList] using inRange
  simp [Seats.toList, player, Seats.get?, seated]

theorem Game.player_of_mem_toList {g : Game} {p : PlayerId} {s : Player}
    (mem : (p, s) ∈ g.players.toList) : g.player p = s := by
  rw [toList_players] at mem
  obtain ⟨k, -, same⟩ := List.mem_map.1 mem
  obtain ⟨rfl, rfl⟩ := Prod.mk.inj same
  rfl

namespace ZonesAgree

variable {g : Game} (agree : ZonesAgree g)
include agree

theorem known_of_holds {p : PlayerId} {z : Zone} {c : CardId} (mem : c ∈ (g.player p).holds z) :
    (g.card? c).isSome := by
  cases found : g.card? c with
  | some i => rfl
  | none => exact absurd mem (List.count_eq_zero.1 ((agree c).unknown found p z))

theorem known_of_searched {zones : Option ZoneMatch} {c : CardId}
    (mem : c ∈ g.searchedCards zones) : (g.card? c).isSome := by
  obtain ⟨⟨p, s⟩, seat, inZones⟩ := List.mem_flatMap.1 mem
  obtain ⟨z, -, inZone⟩ := List.mem_flatMap.1 inZones
  obtain rfl := Game.player_of_mem_toList seat
  cases z with
  | stack =>
    obtain ⟨known, -⟩ := (Option.any_eq_true_iff_get _ _).1 (List.mem_filter.1 inZone).2
    exact known
  | deck => exact agree.known_of_holds (z := .deck) inZone
  | hand => exact agree.known_of_holds (z := .hand) inZone
  | board => exact agree.known_of_holds (z := .board) inZone
  | pile => exact agree.known_of_holds (z := .pile) inZone

theorem known_of_objectsOf {u : AbilityUse} {m : Match} {zones : Option ZoneMatch}
    {mode : MatchMode}
    {c : CardId} (mem : ObjectRef.card c ∈ g.objectsOf u m zones mode) : (g.card? c).isSome := by
  rcases List.mem_append.1 mem with player | card
  · obtain ⟨p, -, same⟩ := List.mem_map.1 (List.mem_filter.1 player).1
    exact nomatch same
  · have found := (List.mem_filter.1 (List.mem_eraseDups.1 card)).1
    have searched : ObjectRef.card c ∈ (g.searchedCards zones).map ObjectRef.card := by
      cases m with
      | player m => exact nomatch found
      | card m => exact found
      | any m => exact found
    obtain ⟨d, searched, same⟩ := List.mem_map.1 searched
    exact ObjectRef.card.inj same ▸ agree.known_of_searched searched

theorem known_of_query {u : AbilityUse} {m : Option Match} {zones : Option ZoneMatch}
    {limit : Option Nat} {mode : MatchMode} {c : CardId}
    (mem : ObjectRef.card c ∈ g.query u m zones limit mode) : (g.card? c).isSome := by
  unfold Game.query at mem
  split at mem
  · exact nomatch List.mem_singleton.1 mem
  · exact agree.known_of_objectsOf mem
  · exact agree.known_of_objectsOf (List.mem_of_mem_take mem)

end ZonesAgree

end CardGame
