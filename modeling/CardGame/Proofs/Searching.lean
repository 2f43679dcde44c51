import CardGame.Proofs.Naming

/-!
What queries find, and in which order. A search walks along rows: for each seat the slots of its
board, its hand, its pile and its deck from the top, and then what waits on the stack of its cards.
A card may lie in several of them, since a use may wait of a card that is elsewhere; it is found
where it is met first.
-/

namespace CardGame

structure Place where
  player : PlayerId
  zone : Zone
  index : Nat
deriving DecidableEq

/-- When the row of a zone is searched, among those of a player. -/
def Zone.turn : Zone → Nat
  | .board => 0
  | .hand => 1
  | .pile => 2
  | .deck => 3
  | .stack => 4

/-- A search meets one place before another one. -/
def Place.Precedes (p q : Place) : Prop :=
  p.player.seat < q.player.seat ∨ p.player.seat = q.player.seat ∧
    (p.zone.turn < q.zone.turn ∨ p.zone = q.zone ∧ p.index < q.index)

namespace Game

/-- The row of a zone of a player: the slots of the board, the cards from the top, or the uses that
wait, of which those count that come from a card of the player. -/
def row (g : Game) (p : PlayerId) : Zone → List (Option CardId)
  | .board => (g.player p).board.slots
  | .hand => (g.player p).hand.cards.map some
  | .pile => (g.player p).pile.cards.map some
  | .deck => (g.player p).deck.cards.map some
  | .stack => g.stack.entries.map fun u =>
    if (g.card? u.source).any (·.owner == p) then some u.source else none

def At (g : Game) (c : CardId) (p : Place) : Prop :=
  ((g.row p.player p.zone)[p.index]?).join = some c

def placedIn (g : Game) (p : PlayerId) (z : Zone) : List (Place × CardId) :=
  (List.range (g.row p z).length).filterMap fun k => ((g.row p z)[k]?).join.map (⟨p, z, k⟩, ·)

def placed (g : Game) (zones : Option ZoneMatch) : List (Place × CardId) :=
  (List.range g.players.count).flatMap fun seat =>
    (Zone.searchOrder.filter fun z => zones.all (·.contains z)).flatMap (g.placedIn ⟨seat⟩)

/-- A search of some zones finds one object before another one: players by their seats and ahead of
all cards, and cards by the places where they are met first. -/
def FoundBefore (g : Game) (zones : Option ZoneMatch) : ObjectRef → ObjectRef → Prop
  | .player p, .player q => p.seat < q.seat
  | .player _, .card _ => True
  | .card _, .player _ => False
  | .card c, .card d => ∃ p, g.At c p ∧ zones.all (·.contains p.zone) ∧
    ∀ q, g.At d q → zones.all (·.contains q.zone) → p.Precedes q

end Game

theorem pairwise_eraseDups {α β : Type} [BEq α] [LawfulBEq α] {r : β → β → Prop} {l : List (β × α)}
    (sorted : l.Pairwise fun p q => r p.1 q.1) :
    (l.map Prod.snd).eraseDups.Pairwise fun a b => ∃ p, (p, a) ∈ l ∧ ∀ q, (q, b) ∈ l → r p q := by
  induction sorted with
  | nil => exact .nil
  | @cons first l before _ ih =>
    obtain ⟨p, a⟩ := first
    rw [List.map_cons, List.eraseDups_cons, eraseDups_filter]
    -- what differs from the first value is not at its place
    have later : ∀ {q b}, (!b == a) = true → (q, b) ∈ (p, a) :: l → (q, b) ∈ l := by
      intro q b other mem
      refine (List.mem_cons.1 mem).resolve_left fun same => ?_
      rw [(Prod.mk.inj same).2, beq_self_eq_true] at other
      exact Bool.false_ne_true other
    refine List.pairwise_cons.2 ⟨fun b mem => ⟨p, .head _, fun q found => ?_⟩, ?_⟩
    · exact before (q, b) (later (List.mem_filter.1 mem).2 found)
    · rw [List.pairwise_filter]
      refine ih.imp fun {b d} first _ other => ?_
      obtain ⟨q, found, least⟩ := first
      exact ⟨q, .tail _ found, fun q' found' => least q' (later other found')⟩

namespace Game

variable (g : Game)

theorem mem_placedIn {p : PlayerId} {z : Zone} {q : Place} {c : CardId} :
    (q, c) ∈ g.placedIn p z ↔ q.player = p ∧ q.zone = z ∧ g.At c q := by
  simp only [placedIn, List.mem_filterMap, Option.map_eq_some_iff, List.mem_range]
  constructor
  · rintro ⟨k, -, d, held, same⟩
    obtain ⟨rfl, rfl⟩ := Prod.mk.inj same
    exact ⟨rfl, rfl, held⟩
  · rintro ⟨rfl, rfl, held⟩
    have inRange : q.index < (g.row q.player q.zone).length :=
      (List.getElem?_eq_some_iff.1 (Option.join_eq_some_iff.1 held)).1
    exact ⟨q.index, inRange, c, held, rfl⟩

theorem mem_placed {zones : Option ZoneMatch} {q : Place} {c : CardId} :
    (q, c) ∈ g.placed zones ↔
      q.player.seat < g.players.count ∧ zones.all (·.contains q.zone) ∧ g.At c q := by
  simp only [placed, List.mem_flatMap, List.mem_range, List.mem_filter, mem_placedIn]
  constructor
  · rintro ⟨seat, seated, z, ⟨-, searched⟩, player, rfl, held⟩
    exact ⟨player ▸ seated, searched, held⟩
  · rintro ⟨seated, searched, held⟩
    exact ⟨_, seated, q.zone, ⟨Zone.mem_searchOrder _, searched⟩, rfl, rfl, held⟩

theorem pairwise_placedIn (p : PlayerId) (z : Zone) :
    (g.placedIn p z).Pairwise fun a b => a.1.Precedes b.1 := by
  rw [placedIn, List.pairwise_filterMap]
  refine List.pairwise_lt_range.imp fun before a first b next => ?_
  obtain ⟨_, -, rfl⟩ := Option.map_eq_some_iff.1 first
  obtain ⟨_, -, rfl⟩ := Option.map_eq_some_iff.1 next
  exact .inr ⟨rfl, .inr ⟨rfl, before⟩⟩

/-- Places are met in the order of seats, zones and rows. -/
theorem pairwise_placed (zones : Option ZoneMatch) :
    (g.placed zones).Pairwise fun a b => a.1.Precedes b.1 := by
  have zoned : Zone.searchOrder.Pairwise fun y z => y.turn < z.turn := by decide
  rw [placed, List.pairwise_flatMap]
  refine ⟨fun seat _ => List.pairwise_flatMap.2 ⟨fun z _ => g.pairwise_placedIn ⟨seat⟩ z, ?_⟩, ?_⟩
  · refine (zoned.sublist List.filter_sublist).imp fun before a first b next => ?_
    obtain ⟨player, zone, -⟩ := g.mem_placedIn.1 first
    obtain ⟨player', zone', -⟩ := g.mem_placedIn.1 next
    exact .inr ⟨by rw [player, player'], .inl (by rw [zone, zone']; exact before)⟩
  · refine List.pairwise_lt_range.imp fun before a first b next => .inl ?_
    obtain ⟨y, -, first⟩ := List.mem_flatMap.1 first
    obtain ⟨z, -, next⟩ := List.mem_flatMap.1 next
    rw [(g.mem_placedIn.1 first).1, (g.mem_placedIn.1 next).1]
    exact before

theorem cardsIn_eq_row (p : PlayerId) (z : Zone) :
    g.cardsIn p (g.player p) z = (g.row p z).filterMap id := by
  have whole : ∀ l : List CardId, l = (l.map some).filterMap id := fun l => by simp
  cases z with
  | board => rfl
  | stack =>
    rw [cardsIn, row, List.filterMap_map, List.filter_map, ← List.filterMap_eq_filter,
      List.map_filterMap]
    refine List.filterMap_congr fun u _ => ?_
    simp only [Option.guard, Function.comp_apply, id]
    split <;> rfl
  | hand => exact whole _
  | pile => exact whole _
  | deck => exact whole _

theorem map_placedIn (p : PlayerId) (z : Zone) :
    (g.placedIn p z).map Prod.snd = g.cardsIn p (g.player p) z := by
  have row : (List.range (g.row p z).length).map (fun k => ((g.row p z)[k]?).join) = g.row p z := by
    refine List.ext_getElem (by simp) fun k _ inRange => ?_
    simp [inRange]
  rw [cardsIn_eq_row, ← row, List.filterMap_map, placedIn, List.map_filterMap]
  exact List.filterMap_congr fun k _ => (Option.map_map _ _ _).trans Option.map_id'

theorem map_placed (zones : Option ZoneMatch) :
    (g.placed zones).map Prod.snd = g.searchedCards zones := by
  rw [placed, searchedCards, toList_players, List.flatMap_map, List.map_flatMap]
  simp only [List.map_flatMap, map_placedIn]

end Game

/-- What is at a place is a card of the player whose place it is, and its record names the zone
unless a use of it waits there. -/
theorem ZonesAgree.at_place {g : Game} (agree : ZonesAgree g) {c : CardId} {p : Place}
    (held : g.At c p) :
    ∃ i, g.card? c = some i ∧ i.owner = p.player ∧ (p.zone ≠ .stack → i.zone = p.zone) := by
  have inRow : c ∈ g.cardsIn p.player (g.player p.player) p.zone := by
    rw [Game.cardsIn_eq_row]
    exact List.mem_filterMap.2 ⟨some c, List.mem_of_getElem? (Option.join_eq_some_iff.1 held), rfl⟩
  by_cases stacked : p.zone = .stack
  · rw [stacked] at inRow
    obtain ⟨i, found, own⟩ := (Option.any_eq_true _ _).1 (List.mem_filter.1 inRow).2
    exact ⟨i, found, beq_iff_eq.1 own, fun ordered => absurd stacked ordered⟩
  · rw [Game.cardsIn_of_ne _ _ _ stacked] at inRow
    obtain ⟨i, found⟩ := Option.isSome_iff_exists.1 (agree.known_of_holds inRow)
    obtain ⟨owner, zone⟩ := ((agree c).housed i found).eq_of_holds inRow
    exact ⟨i, found, owner.symm, fun _ => zone.symm⟩

/-- The objects that a match means, each once and in the order of a search of some zones. -/
structure FindsExactly (g : Game) (u : AbilityUse) (mode : MatchMode) (m : Match)
    (zones : Option ZoneMatch) (found : List ObjectRef) : Prop where
  nodup : found.Nodup
  player : ∀ p, ObjectRef.player p ∈ found ↔ p.seat < g.players.count ∧ g.holds u mode m (.player p)
  /-- A card is found where its record says it is, and on the stack when a use of it waits; a match
  of players alone finds none. -/
  card : ∀ c, ObjectRef.card c ∈ found ↔ (∀ n, m ≠ .player n) ∧ g.holds u mode m (.card c) ∧
    ∃ i, g.card? c = some i ∧ ((i.zone ≠ .stack ∧ zones.all (·.contains i.zone)) ∨
      zones.all (·.contains .stack) ∧ ∃ entry ∈ g.stack.entries, entry.source = c)
  order : found.Pairwise (g.FoundBefore zones)

namespace Game

variable (g : Game) (u : AbilityUse) (m : Match) (zones : Option ZoneMatch) (mode : MatchMode)

def searchedFor : List ObjectRef :=
  match m with
  | .player _ => []
  | _ => (g.searchedCards zones).map ObjectRef.card

theorem objectsOf_eq : g.objectsOf u m zones mode =
    (g.players.ids.map ObjectRef.player).filter (g.holds u mode m) ++
      (g.searchedFor m zones).eraseDups.filter (g.holds u mode m) := by
  rw [← eraseDups_filter]
  rfl

theorem mem_searchedFor {o : ObjectRef} : o ∈ g.searchedFor m zones ↔
    (∀ n, m ≠ .player n) ∧ ∃ c ∈ g.searchedCards zones, ObjectRef.card c = o := by
  cases m <;> simp [searchedFor]

theorem mem_objectsOf {o : ObjectRef} : o ∈ g.objectsOf u m zones mode ↔
    g.holds u mode m o ∧
      ((∃ p ∈ g.players.ids, ObjectRef.player p = o) ∨ o ∈ g.searchedFor m zones) := by
  rw [objectsOf_eq, List.mem_append, List.mem_filter, List.mem_filter, ← or_and_right, and_comm,
    List.mem_map, List.mem_eraseDups]

theorem mem_ids {p : PlayerId} : p ∈ g.players.ids ↔ p.seat < g.players.count := by
  obtain ⟨seat⟩ := p
  have seats : min g.players.count 256 = g.players.count :=
    Nat.min_eq_left (Nat.le_trans g.players.atMost (by decide))
  simp [Seats.ids, PlayerId.all, seats]

theorem not_foundBefore_self (o : ObjectRef) : ¬ g.FoundBefore zones o o := by
  cases o with
  | player p => exact Nat.lt_irrefl _
  | card c =>
    rintro ⟨p, held, searched, least⟩
    have before := least p held searched
    simp [Place.Precedes] at before

end Game

namespace ZonesAgree

variable {g : Game} (agree : ZonesAgree g)
include agree

theorem pairwise_searchedCards (zones : Option ZoneMatch) :
    ((g.searchedCards zones).map ObjectRef.card).eraseDups.Pairwise (g.FoundBefore zones) := by
  let entries := (g.placed zones).map fun (p, c) => (p, ObjectRef.card c)
  have sorted : entries.Pairwise fun a b => a.1.Precedes b.1 :=
    List.pairwise_map.2 (g.pairwise_placed zones)
  have met : entries.map Prod.snd = (g.searchedCards zones).map ObjectRef.card := by
    rw [← g.map_placed, List.map_map, List.map_map]
    rfl
  have listed : ∀ {p c}, (p, ObjectRef.card c) ∈ entries ↔ (p, c) ∈ g.placed zones := by
    simp [entries]
  rw [← met]
  refine (pairwise_eraseDups sorted).imp_of_mem fun {a b} first next ⟨p, at_a, least⟩ => ?_
  rw [List.mem_eraseDups, met] at first next
  obtain ⟨c, -, rfl⟩ := List.mem_map.1 first
  obtain ⟨d, -, rfl⟩ := List.mem_map.1 next
  obtain ⟨-, searched, held⟩ := g.mem_placed.1 (listed.1 at_a)
  refine ⟨p, held, searched, fun q held searched =>
    least q (listed.2 (g.mem_placed.2 ⟨?_, searched, held⟩))⟩
  obtain ⟨i, found, owner, -⟩ := agree.at_place held
  exact owner ▸ ((agree d).housed i found).seated

theorem findsExactly (u : AbilityUse) (m : Match) (zones : Option ZoneMatch) (mode : MatchMode) :
    FindsExactly g u mode m zones (g.objectsOf u m zones mode) := by
  rw [g.objectsOf_eq]
  have seats : (g.players.ids.map ObjectRef.player).Pairwise (g.FoundBefore zones) := by
    refine List.pairwise_map.2 (List.pairwise_map.2 ?_)
    exact List.pairwise_lt_range
  have cards : (g.searchedFor m zones).eraseDups.Pairwise (g.FoundBefore zones) := by
    cases m with
    | player n => exact .nil
    | card n => exact agree.pairwise_searchedCards zones
    | any n => exact agree.pairwise_searchedCards zones
  have order : ((g.players.ids.map ObjectRef.player).filter (g.holds u mode m) ++
      (g.searchedFor m zones).eraseDups.filter (g.holds u mode m)).Pairwise
        (g.FoundBefore zones) := by
    refine List.pairwise_append.2 ⟨seats.filter _, cards.filter _, fun a first b next => ?_⟩
    obtain ⟨p, -, rfl⟩ := List.mem_map.1 (List.mem_filter.1 first).1
    obtain ⟨-, c, -, rfl⟩ :=
      (g.mem_searchedFor m zones).1 (List.mem_eraseDups.1 (List.mem_filter.1 next).1)
    trivial
  have apart : ∀ {a b}, g.FoundBefore zones a b → a ≠ b := by
    rintro a _ before rfl
    exact g.not_foundBefore_self zones a before
  refine ⟨order.imp apart, fun p => ?_, fun c => ?_, order⟩
  · simp [← g.objectsOf_eq, g.mem_objectsOf, g.mem_searchedFor, g.mem_ids, and_comm]
  · have known : ∀ i, g.card? c = some i →
        _ := fun i found => agree.mem_searchedCards_iff found zones
    rw [← g.objectsOf_eq, g.mem_objectsOf, g.mem_searchedFor]
    constructor
    · rintro ⟨meant, ⟨p, -, same⟩ | ⟨cards, d, searched, same⟩⟩
      · exact nomatch same
      · obtain rfl := ObjectRef.card.inj same
        obtain ⟨i, found⟩ := Option.isSome_iff_exists.1 (agree.known_of_searched searched)
        exact ⟨cards, meant, i, found, (known i found).1 searched⟩
    · rintro ⟨cards, meant, i, found, there⟩
      exact ⟨meant, .inr ⟨cards, c, (known i found).2 there, rfl⟩⟩

end ZonesAgree

structure QueryExact (g : Game) (u : AbilityUse) (mode : MatchMode) (m : Match)
    (zones : Option ZoneMatch) :
    Prop where
  found : FindsExactly g u mode m zones (g.query u (some m) zones none mode)
  /-- The places by which cards are ordered are those of their owners. -/
  places : ∀ c p, g.At c p → ∃ i, g.card? c = some i ∧ i.owner = p.player ∧
    (p.zone ≠ .stack → i.zone = p.zone)
  limit : ∀ n, g.query u (some m) zones (some n) mode = (g.query u (some m) zones none mode).take n

/-- In every game that can come about, a query finds what is meant and nothing else, once and in
order: players by seats, then cards by seats, zones and places; and a limit cuts the rest off. -/
theorem Reached.queryExact {g : Game} (reached : Reached g) (u : AbilityUse) (mode : MatchMode)
    (m : Match) (zones : Option ZoneMatch) : QueryExact g u mode m zones where
  found := (ZonesAgree.of_reached reached).findsExactly u m zones mode
  places _ _ held := (ZonesAgree.of_reached reached).at_place held
  limit _ := rfl

theorem queryExact_anyTarget :
    ∃ start, Game.create {} [⟨[.blank "Squire", .blank "Guard", .blank "Page"], .pass⟩,
        ⟨[.blank "Knight"], .pass⟩] = .ok start ∧
      let g := Operation.performAll start [.draw ⟨0⟩ 2, .enterPhase .play, .cast ⟨0⟩ ⟨0⟩ none,
        .resolveTop, .cast ⟨0⟩ ⟨1⟩ none]
      let u := AbilityUse.fresh ⟨0⟩ .activated ⟨0⟩ ⟨0⟩
      g.query u (some (.any .anyTarget)) none none .candidates =
          [.player ⟨0⟩, .player ⟨1⟩, .card ⟨0⟩, .card ⟨2⟩, .card ⟨1⟩, .card ⟨3⟩] ∧
        QueryExact g u .candidates (.any .anyTarget) none := by
  refine ⟨_, rfl, by decide +kernel, ?_⟩
  exact Reached.queryExact (reached_performAll
    {} [⟨[.blank "Squire", .blank "Guard", .blank "Page"], .pass⟩, ⟨[.blank "Knight"], .pass⟩] rfl
      _) _ _ _ _

end CardGame
