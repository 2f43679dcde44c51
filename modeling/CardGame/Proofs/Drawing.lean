import CardGame.Proofs.Transfers

/-!
Drawing. Each card that is drawn goes from the top of the deck to the bottom of the hand, so that
the hand grows by the top of the deck in its order, and each is told of by itself. When the deck
runs out before the number is reached, the loss is told once and the drawing ends, however many
cards were left to draw.
-/

namespace CardGame

def Player.drawn (s : Player) (n : Nat) : Player :=
  { s with
    hand := ⟨s.hand.cards ++ s.deck.cards.take n⟩
    deck := ⟨s.deck.cards.drop n⟩
    lost := s.lost || decide (s.deck.cards.length < n) }

def Game.drawEvents (g : Game) (p : PlayerId) (n : Nat) : List GameEvent :=
  ((g.player p).deck.cards.take n).map (fun c => ⟨.draw, g.resolving, .card c⟩) ++
    if (g.player p).deck.cards.length < n then [⟨.lose, g.resolving, .player p⟩] else []

namespace Player

variable {s : Player} {c : CardId} {rest : List CardId}

theorem drawn_zero (s : Player) : s.drawn 0 = s := by
  simp [drawn]

theorem drawn_of_empty (empty : s.deck.cards = []) (n : Nat) :
    s.drawn (n + 1) = { s with lost := true } := by
  obtain ⟨life, ⟨deck⟩, hand, pile, board, essence, turns, lost⟩ := s
  obtain rfl : deck = [] := empty
  simp [drawn]

theorem drawn_handOver (top : s.deck.cards = c :: rest) (n : Nat) :
    (s.handOver c .deck .hand .bottom).drawn n = s.drawn (n + 1) := by
  obtain ⟨life, ⟨deck⟩, hand, pile, board, essence, turns, lost⟩ := s
  obtain rfl : deck = c :: rest := top
  simp [drawn, handOver, modifyPile, Pile.remove, Pile.insert]

end Player

theorem Game.drawEvents_zero (g : Game) (p : PlayerId) : g.drawEvents p 0 = [] := by
  simp [drawEvents]

theorem Game.drawEvents_of_empty {g : Game} {p : PlayerId} (empty : (g.player p).deck.cards = [])
    (n : Nat) :
    g.drawEvents p (n + 1) = [⟨.lose, g.resolving, .player p⟩] := by
  simp [drawEvents, empty]

namespace Act

variable {p : PlayerId}

theorem ends_drawCards_handed (n : Nat) {g : Game} (seated : p.seat < g.players.count)
    (room : g.eventDepth < g.config.maxEventDepth.toNat)
    (places : g.Places p .deck (g.player p).deck.cards) (distinct : (g.player p).deck.cards.Nodup) :
    Ends (fun h => h = g) (drawCards p n) (fun _ => Handed p ((g.player p).drawn n)
      ((g.player p).deck.cards.take n) .hand (g.drawEvents p n) g) fun _ _ => False := by
  induction n generalizing g with
  | zero =>
    refine ends_pure fun h same => ?_
    subst same
    rw [Player.drawn_zero, List.take_zero, Game.drawEvents_zero]
    exact .refl p .hand h
  | succ n ih =>
    refine ends_readGiven.bind fun known => .given fun same => ?_
    subst same
    split
    · next none =>
      have empty := List.head?_eq_none_iff.1 none
      rw [Player.drawn_of_empty empty, Game.drawEvents_of_empty empty, empty]
      exact ends_lift fun h same => same ▸ .emit_lose (same ▸ room) p .hand
    · next c top =>
      obtain ⟨rest, deck⟩ := List.head?_eq_some_iff.1 top
      obtain ⟨fresh, distinct⟩ := List.nodup_cons.1 (deck ▸ distinct)
      have found := places c (deck ▸ List.mem_cons_self)
      refine (ends_moveCard_handed seated found (by decide) (by decide) .bottom).bind fun _ => ?_
      refine (ends_emit_handed (by decide) (by decide) (.card c)).bind fun _ h before => ?_
      -- the rest of the deck is where it was, so that the drawing goes on as from a game of its own
      have left : (h.player p).deck.cards = rest := by
        rw [before.player]
        simp [Player.handOver, Player.modifyPile, Pile.remove, deck]
      have stays : h.Places p .deck rest :=
        before.places (fun d mem => places d (deck ▸ List.mem_cons_of_mem c mem)) fun d mem same =>
          fresh (List.mem_singleton.1 same ▸ mem)
      have later := ih (before.seats.symm ▸ seated)
        (before.toAside.eventDepth.symm ▸ before.toAside.config.symm ▸ room) (left.symm ▸ stays)
        (left.symm ▸ distinct)
      refine (later.after fun _ k next => ?_) h rfl
      have drawn : (h.player p).drawn n = (known.player p).drawn (n + 1) := by
        rw [before.player, Player.drawn_handOver deck]
      have told : known.announced .draw (.card c) ++ h.drawEvents p n =
          known.drawEvents p (n + 1) := by
        simp [Game.announced, Game.drawEvents, room, left, deck, before.toAside.resolving]
      rw [← drawn, ← told, deck]
      exact left ▸ before.trans next

end Act

/-- Drawing is exact, also in the midst of an operation. With room for events it never fails; the
top of the deck, as many cards as the number says or as there are, comes to the bottom of the hand
in its order, and the rest of the deck keeps its own. One event is told for each card, and one of
losing just when the number exceeds the deck, which is when the player is marked as having lost.
Nothing else changes, but for the triggered uses that the events put on the stack. -/
theorem Underway.draw_exact {g : Game} (underway : Underway g) (room : 1 ≤ g.config.maxEventDepth)
    {p : PlayerId} (seated : p.seat < g.players.count) (n : Amount) :
    let s := g.player p
    let deck := s.deck.cards
    let count := min (max n.toInt 0).toNat deck.length
    ∃ h, StateT.run (ExceptT.run (Act.draw p n)) g = (.ok (), h) ∧
      Handed p
        { s with
          hand := ⟨s.hand.cards ++ deck.take count⟩
          deck := ⟨deck.drop count⟩
          lost := s.lost || decide ((deck.length : Int) < n.toInt) }
        (deck.take count) .hand
        ((deck.take count).map (fun c => ⟨.draw, g.resolving, .card c⟩) ++
          if (deck.length : Int) < n.toInt then [⟨.lose, g.resolving, .player p⟩] else []) g h := by
  intro s deck count
  have shallow : g.eventDepth < g.config.maxEventDepth.toNat := by
    rw [underway.eventDepth]
    exact UInt64.le_iff_toNat_le.1 room
  have agree := ZonesAgree.of_underway underway
  obtain ⟨⟨⟩, h, ran, handed⟩ := (Act.ends_drawCards_handed n.times seated shallow
    (agree.places p .deck)
    (agree.nodup_holds p .deck)).succeeds rfl
  refine ⟨h, ran, ?_⟩
  have times : n.times = (max n.toInt 0).toNat := by rw [Amount.times]; omega
  have taken : deck.take n.times = deck.take count := by rw [times, List.take_eq_take_min]
  have dropped : deck.drop n.times = deck.drop count := by rw [times, List.drop_eq_drop_min]
  have exceeds : deck.length < n.times ↔ (deck.length : Int) < n.toInt := by
    rw [Amount.times]; omega
  simp only [← taken, ← dropped, ← exceeds]
  exact handed

theorem draw_exact_overdrawn :
    ∃ start, Game.create {} [⟨[.blank "Squire", .blank "Page"], .pass⟩, ⟨[], .pass⟩] = .ok start ∧
      let g := Operation.performAll start [.draw ⟨0⟩ 1]
      1 ≤ g.config.maxEventDepth ∧ 0 < g.players.count ∧
        ∃ h, StateT.run (ExceptT.run (Act.draw ⟨0⟩ 3)) g = (.ok (), h) ∧
          (h.player ⟨0⟩).hand.cards = [⟨0⟩, ⟨1⟩] ∧ (h.player ⟨0⟩).lost = true ∧
          h.events = g.events ++ [⟨.draw, none, .card ⟨1⟩⟩, ⟨.lose, none, .player ⟨0⟩⟩] := by
  refine ⟨_, rfl, by decide +kernel, by decide +kernel, ?_⟩
  have reached := reached_performAll {} [⟨[.blank "Squire", .blank "Page"], .pass⟩, ⟨[], .pass⟩] rfl
    [.draw ⟨0⟩ 1]
  obtain ⟨h, ran, handed⟩ :=
    (Underway.reached reached).draw_exact (by decide +kernel) (by decide +kernel) (p := ⟨0⟩) 3
  refine ⟨h, ran, ?_, ?_, ?_⟩
  · rw [handed.player]
    decide +kernel
  · rw [handed.player]
    decide +kernel
  · rw [handed.events]
    decide +kernel

end CardGame
