import CardGame.Game.State

/-!
What the zones of a player hold, by counting. Taking a card out of a zone or putting it into one
changes the count of that card in that zone only.
-/

namespace CardGame

namespace Board

theorem count_cards (b : Board) (c : CardId) : b.cards.count c = b.slots.count (some c) := by
  rw [cards, List.count_filterMap, List.count_eq_countP]
  rfl

theorem mem_cards_of_get? {b : Board} {slot : Nat} {c : CardId} (held : b.get? slot = some c) :
    c ∈ b.cards :=
  List.mem_filterMap.2 ⟨some c, List.mem_of_getElem? (Option.join_eq_some_iff.1 held), rfl⟩

theorem slot_of_isFree {b : Board} {slot : Nat} (free : b.isFree slot) :
    b.slots[slot]? = some none := by
  simpa [isFree] using free

theorem slots_of_slotOf? {b : Board} {c : CardId} {slot : Nat} (found : b.slotOf? c = some slot) :
    b.slots[slot]? = some (some c) := by
  obtain ⟨inRange, holds, -⟩ := List.findIdx?_eq_some_iff_getElem.1 found
  rw [List.getElem?_eq_getElem inRange, beq_iff_eq.1 holds]

theorem count_place {b : Board} {slot : Nat} (c d : CardId) (free : b.isFree slot) :
    (b.place slot c).cards.count d = b.cards.count d + if c = d then 1 else 0 := by
  obtain ⟨inRange, empty⟩ := List.getElem?_eq_some_iff.1 (slot_of_isFree free)
  rw [count_cards, count_cards, place, if_pos free]
  rw [List.count_set inRange, empty]
  simp

theorem get?_place {b : Board} {slot k : Nat} {d : CardId} (c : CardId) (free : b.isFree slot)
    (held : b.get? k = some d) : (b.place slot c).get? k = some d := by
  have apart : slot ≠ k := by
    rintro rfl
    rw [get?, slot_of_isFree free] at held
    cases held
  rw [place, if_pos free, get?, List.getElem?_set_ne apart]
  exact held

theorem count_remove (b : Board) (c d : CardId) :
    (b.remove c).cards.count d = b.cards.count d - if c = d then 1 else 0 := by
  unfold remove
  split
  · next slot found =>
    obtain ⟨inRange, holds⟩ := List.getElem?_eq_some_iff.1 (slots_of_slotOf? found)
    rw [count_cards, count_cards, List.count_set inRange, holds]
    simp
  · next absent =>
    have nowhere : some c ∉ b.slots := by
      intro mem
      have := List.findIdx?_eq_none_iff.1 absent _ mem
      simp at this
    rw [count_cards]
    split
    · next same => rw [← same, List.count_eq_zero_of_not_mem nowhere]
    · rfl

theorem get?_remove {b : Board} {k : Nat} {c d : CardId} (other : c ≠ d)
    (held : b.get? k = some d) : (b.remove c).get? k = some d := by
  unfold remove
  split
  · next slot found =>
    have apart : slot ≠ k := by
      rintro rfl
      rw [get?, slots_of_slotOf? found] at held
      exact other (Option.some.inj held)
    rw [get?, List.getElem?_set_ne apart]
    exact held
  · exact held

end Board

namespace Pile

theorem count_insert (p : Pile) (c d : CardId) (position : Position) :
    (p.insert c position).cards.count d = p.cards.count d + if c = d then 1 else 0 := by
  have single : ∀ l : List CardId, (c :: l).count d = l.count d + if c = d then 1 else 0 := by
    intro l
    simp [List.count_cons]
  cases position with
  | top => exact single p.cards
  | bottom =>
    rw [insert, List.count_append, single]
    simp
  | index i =>
    have parts := congrArg (List.count d) (List.take_append_drop i p.cards)
    rw [List.count_append] at parts
    rw [insert, List.count_append, single]
    omega

theorem count_remove (p : Pile) (c d : CardId) :
    (p.remove c).cards.count d = p.cards.count d - if c = d then 1 else 0 := by
  rw [remove, List.count_erase]
  simp

end Pile

namespace Player

/-- The cards that a zone of a player holds. The stack is no zone of a player. -/
def holds (s : Player) : Zone → List CardId
  | .deck => s.deck.cards
  | .hand => s.hand.cards
  | .board => s.board.cards
  | .pile => s.pile.cards
  | .stack => []

theorem holds_vacant (z : Zone) : vacant.holds z = [] := by
  cases z <;> rfl

theorem holds_initial (config : RulesConfig) (z : Zone) : (initial config).holds z = [] := by
  cases z with
  | board => simp [holds, initial, Board.cards, Board.empty]
  | _ => rfl

theorem board_modifyPile (s : Player) (z : Zone) (f : Pile → Pile) :
    (s.modifyPile z f).board = s.board := by
  cases z <;> rfl

theorem count_insert (s : Player) {z : Zone} (ordered : z ≠ .board) (c d : CardId)
    (position : Position) (y : Zone) :
    ((s.modifyPile z (·.insert c position)).holds y).count d =
      (s.holds y).count d + if y = z ∧ y ≠ .stack ∧ c = d then 1 else 0 := by
  cases z <;> cases y <;> simp_all [modifyPile, holds, Pile.count_insert]

theorem count_remove (s : Player) {z : Zone} (ordered : z ≠ .board) (c d : CardId) (y : Zone) :
    ((s.modifyPile z (·.remove c)).holds y).count d =
      (s.holds y).count d - if y = z ∧ c = d then 1 else 0 := by
  cases z <;> cases y <;> simp_all [modifyPile, holds, Pile.count_remove]

theorem count_place (s : Player) {slot : Nat} (free : s.board.isFree slot) (c d : CardId)
    (y : Zone) : (({ s with board := s.board.place slot c } : Player).holds y).count d =
      (s.holds y).count d + if y = .board ∧ c = d then 1 else 0 := by
  cases y <;> simp [holds, Board.count_place c d free]

theorem count_leave (s : Player) (c d : CardId) (y : Zone) :
    (({ s with board := s.board.remove c } : Player).holds y).count d =
      (s.holds y).count d - if y = .board ∧ c = d then 1 else 0 := by
  cases y <;> simp [holds, Board.count_remove]

end Player

namespace Seats

variable {α β : Type}

theorem count_mapWithSeat (seats : Seats α) (f : PlayerId → α → β) :
    (seats.mapWithSeat f).count = seats.count := by
  simp [count, mapWithSeat]

theorem get?_mapWithSeat (seats : Seats α) (f : PlayerId → α → β) (p : PlayerId) :
    (seats.mapWithSeat f).get? p = (seats.get? p).map (f p) := by
  simp [get?, mapWithSeat]

theorem seat_lt_of_mem_toList {seats : Seats α} {s : PlayerId × α} (mem : s ∈ seats.toList) :
    s.1.seat < seats.count := by
  obtain ⟨i, inRange, rfl⟩ := List.mem_mapIdx.1 mem
  exact inRange

theorem mem_of_mem_toList {entries : List α} {seats : Seats α} (made : ofList? entries = some seats)
    {s : PlayerId × α} (mem : s ∈ seats.toList) : s.2 ∈ entries := by
  obtain ⟨k, inRange, rfl⟩ := List.mem_mapIdx.1 mem
  unfold ofList? at made
  split at made
  · cases made
    exact List.getElem_mem inRange
  · cases made

end Seats

namespace Game

theorem player_modifyPlayer_self {g : Game} {p : PlayerId} (seated : p.seat < g.players.count)
    (f : Player → Player) : (g.modifyPlayer p f).player p = f (g.player p) := by
  have found : g.players.get? p = some g.players.entries[p.seat] := List.getElem?_eq_getElem seated
  simp only [player, modifyPlayer, Seats.get?_modify_self, found]
  rfl

theorem player_modifyPlayer_of_ne (g : Game) {p q : PlayerId} (other : p ≠ q)
    (f : Player → Player) : (g.modifyPlayer p f).player q = g.player q := by
  simp only [player, modifyPlayer, Seats.get?_modify_of_ne _ other]

theorem modifyPlayer_id (g : Game) (p : PlayerId) : g.modifyPlayer p (fun s => s) = g := by
  have entries : g.players.entries.modify p.seat (fun s => s) = g.players.entries :=
    List.modify_id _ _
  simp only [modifyPlayer, Seats.modify, entries]

theorem modifyPlayer_congr {g : Game} {p : PlayerId} {f k : Player → Player}
    (same : f (g.player p) = k (g.player p)) : g.modifyPlayer p f = g.modifyPlayer p k := by
  have entries : g.players.entries.modify p.seat f = g.players.entries.modify p.seat k := by
    refine List.ext_getElem? fun seat => ?_
    rw [List.getElem?_modify, List.getElem?_modify]
    rw [player, Seats.get?] at same
    by_cases own : p.seat = seat
    · subst own
      cases found : g.players.entries[p.seat]? with
      | none => rfl
      | some s =>
        rw [found] at same
        simpa using same
    · simp only [own, ↓reduceIte]
  simp only [modifyPlayer, Seats.modify, entries]

theorem player_modifyPlayer (g : Game) (p q : PlayerId) (f : Player → Player) :
    (g.modifyPlayer p f).player q = g.player q ∨
      p = q ∧ (g.modifyPlayer p f).player q = f (g.player q) := by
  by_cases same : p = q
  · subst same
    by_cases seated : p.seat < g.players.count
    · exact .inr ⟨rfl, player_modifyPlayer_self seated f⟩
    · have missing : g.players.get? p = none := List.getElem?_eq_none (Nat.le_of_not_lt seated)
      simp [player, modifyPlayer, Seats.get?_modify_self, missing]
  · exact .inl (player_modifyPlayer_of_ne g same f)

theorem player_modifyPlayer_of {Q : Player → Prop} {g : Game} {p : PlayerId}
    (holds : Q (g.player p)) {f : Player → Player} (kept : ∀ s, Q s → Q (f s)) (q : PlayerId) :
    Q ((g.modifyPlayer q f).player p) := by
  obtain same | ⟨-, changed⟩ := g.player_modifyPlayer q p f
  · rw [same]
    exact holds
  · rw [changed]
    exact kept _ holds

theorem player_mapWithSeat_of {Q : Player → Prop} {g : Game} {p : PlayerId} (holds : Q (g.player p))
    {f : PlayerId → Player → Player} (kept : ∀ q s, Q s → Q (f q s)) :
    Q ({ g with players := g.players.mapWithSeat f }.player p) := by
  rw [player] at holds
  rw [player, Seats.get?_mapWithSeat]
  cases found : g.players.get? p with
  | none =>
    rw [found] at holds
    exact holds
  | some s =>
    rw [found] at holds
    exact kept p s holds

theorem player_mapWithSeat {α : Type} (g : Game) (f : PlayerId → Player → Player)
    (view : Player → α) (same : ∀ p s, view (f p s) = view s) (p : PlayerId) :
    view ({ g with players := g.players.mapWithSeat f }.player p) = view (g.player p) := by
  simp only [player, Seats.get?_mapWithSeat]
  cases g.players.get? p with
  | none => rfl
  | some s => exact same p s

theorem card?_modifyCard_self (g : Game) (c : CardId) (f : CardInstance → CardInstance) :
    (g.modifyCard c f).card? c = (g.card? c).map f := by
  simp [card?, modifyCard, Array.getElem?_modify]

theorem card?_modifyCard_of_ne (g : Game) {c d : CardId} (other : c ≠ d)
    (f : CardInstance → CardInstance) : (g.modifyCard c f).card? d = g.card? d := by
  have apart : c.index ≠ d.index := fun same => other (by cases c; cases d; simp_all)
  simp [card?, modifyCard, Array.getElem?_modify, apart]

theorem modifyCard_eq_self {g : Game} {c : CardId} {i : CardInstance}
    {f : CardInstance → CardInstance} (found : g.card? c = some i) (same : f i = i) :
    g.modifyCard c f = g := by
  have cards : g.cards.modify c.index f = g.cards := by
    refine Array.ext_getElem? fun k => ?_
    rw [Array.getElem?_modify]
    split
    · next here =>
      rw [← here]
      change (g.card? c).map f = g.card? c
      rw [found, Option.map_some, same]
    · rfl
  rw [modifyCard, cards]

end Game

end CardGame
