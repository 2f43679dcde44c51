import CardGame.Proofs.Costs
import CardGame.Proofs.Transfers

/-!
Discarding. However a player answers, what is discarded are eligible cards of the hand, each once,
and as many as asked for or as there are: a short answer is filled up from the front. They go onto
the pile one by one, the first one lowest, and the rest of the hand keeps its order.
-/

namespace CardGame

def Player.discarded (s : Player) (given : List CardId) : Player :=
  { s with hand := ⟨s.hand.cards.diff given⟩, pile := ⟨given.reverse ++ s.pile.cards⟩ }

theorem Player.discarded_nil (s : Player) : s.discarded [] = s := by
  simp [discarded]

theorem Player.discarded_handOver (s : Player) (c : CardId) (rest : List CardId) :
    (s.handOver c .hand .pile .top).discarded rest = s.discarded (c :: rest) := by
  simp [discarded, handOver, modifyPile, Pile.remove, Pile.insert, List.diff_cons]

def Game.discardEvents (g : Game) (given : List CardId) : List GameEvent :=
  given.flatMap fun c => g.announced .discard (.card c)

theorem Game.discardEvents_of_shallow {g : Game} (shallow : g.eventDepth = 0)
    (given : List CardId) :
    g.discardEvents given =
      if 1 ≤ g.config.maxEventDepth then given.map fun c => ⟨.discard, g.resolving, .card c⟩
      else [] := by
  have room : 0 < g.config.maxEventDepth.toNat ↔ 1 ≤ g.config.maxEventDepth := by
    rw [UInt64.le_iff_toNat_le]
    rfl
  simp only [discardEvents, announced, shallow, room]
  split
  · exact List.map_eq_flatMap.symm
  · simp

namespace Act

variable {g : Game} {p : PlayerId}

theorem ends_discardCards {given : List CardId} (seated : p.seat < g.players.count)
    (places : g.Places p .hand given) (distinct : given.Nodup) :
    Ends (fun h => h = g) (given.forM fun c => do
        moveCard c .pile .top
        Step.emit .discard (.card c))
      (fun _ => Handed p ((g.player p).discarded given) given .pile (g.discardEvents given) g)
      fun _ _ => False := by
  induction given generalizing g with
  | nil =>
    refine ends_pure fun h same => ?_
    subst same
    rw [Player.discarded_nil]
    exact .refl p .pile h
  | cons c rest ih =>
    obtain ⟨fresh, distinct⟩ := List.nodup_cons.1 distinct
    have found := places c List.mem_cons_self
    have thrown : Ends (fun h => h = g) (do moveCard c .pile .top; Step.emit .discard (.card c))
        (fun _ => Handed p ((g.player p).handOver c .hand .pile .top) [c] .pile
          ([] ++ g.announced .discard (.card c)) g) fun _ _ => False :=
      (ends_moveCard_handed seated found (by decide) (by decide) .top).bind fun _ =>
        ends_emit_handed (by decide) (by decide) (.card c)
    refine thrown.bind fun _ h before => ?_
    have stays : h.Places p .hand rest :=
      before.places (fun d mem => places d (List.mem_cons_of_mem c mem)) fun d mem same =>
        fresh (List.mem_singleton.1 same ▸ mem)
    refine ((ih (before.seats.symm ▸ seated) stays distinct).after fun _ k next => ?_) h rfl
    have told : g.announced .discard (.card c) ++ h.discardEvents rest =
        g.discardEvents (c :: rest) := by
      simp only [Game.discardEvents, List.flatMap_cons, before.toAside.announced]
    rw [← Player.discarded_handOver, ← told, ← before.player]
    exact before.trans next

theorem ends_discardNamed (options : List CardId) (indices : List Nat)
    (seated : p.seat < g.players.count)
    (places : g.Places p .hand (indices.filterMap (options[·]?)))
    (distinct : (indices.filterMap (options[·]?)).Nodup) :
    Ends (fun h => h = g) (indices.forM fun i => match options[i]? with
        | none => return
        | some c => do
          moveCard c .pile .top
          Step.emit .discard (.card c))
      (fun _ => Handed p ((g.player p).discarded (indices.filterMap (options[·]?)))
        (indices.filterMap (options[·]?)) .pile
          (g.discardEvents (indices.filterMap (options[·]?))) g)
      fun _ _ => False := by
  have named := ends_discardCards seated places distinct
  rw [← forM_named] at named
  exact named

theorem ends_discard_handed (agree : ZonesAgree g) (seated : p.seat < g.players.count)
    (count : Amount) (eligible : Option (List CardId)) :
    Ends (fun h => h = g) (discard p count eligible) (fun _ =>
      Handed p ((g.player p).discarded (thrown g p count eligible))
        (thrown g p count eligible) .pile
        (g.discardEvents (thrown g p count eligible)) g) fun _ _ => False := by
  refine ends_readGiven.bind fun known => .given fun same => ?_
  subst same
  let options := discardable known p eligible
  let n := min count.times options.length
  have asked : Ends (fun h => h = known) (liftM (Step.chooseMany p (.discard options n) n))
    (fun chosen h =>
      chosen = (StateT.run (Step.chooseMany p (.discard options n) n) known).1 ∧ Talks p known h)
      fun _ _ => False := by
    refine ends_lift fun h same => ?_
    subst same
    exact ⟨rfl, Step.keeps_chooseMany_of_asking (Talks.kept p h) _ n h (.refl p h)⟩
  refine asked.bind fun chosen => .given fun same h talks => ?_
  subst same
  have before := Handed.of_talks talks p .pile
  have places : known.Places p .hand (thrown known p count eligible) := fun c mem =>
    agree.places p .hand c (mem_hand_of_discardable (mem_thrown mem))
  have given := ends_discardNamed options _ (before.seats.symm ▸ seated)
    (before.places places fun _ _ => List.not_mem_nil)
      (nodup_thrown (agree.nodup_discardable p eligible) count)
  refine (given.after fun _ k next => ?_) h rfl
  have told : h.discardEvents (thrown known p count eligible) =
      known.discardEvents (thrown known p count eligible) := by
    simp only [Game.discardEvents, before.toAside.announced]
  rw [← told, ← before.player]
  exact before.trans next

end Act

/-- A discard is mandatory and exact, also in the midst of an operation and however the player
answers. It never fails; the player discards different cards of the hand, of those that match when
the discard says which, and as many as the number says or as there are. They go onto the player's
pile, the hand keeps the rest in its order, and nothing else changes but for the triggered uses on
the stack. One event is told for each card, or none at all when the configuration leaves no room for
events. -/
theorem Underway.discard_exact {g : Game} (underway : Underway g) {p : PlayerId}
    (seated : p.seat < g.players.count) (u : AbilityUse) (count : Quantity)
    (filter : Option CardMatch) (objects : List ObjectRef) :
    let s := g.player p
    let eligible := s.hand.cards.filter fun c => filter.isNone ||
      (objects.filterMap ObjectRef.card?).contains c
    ∃ given h, StateT.run (ExceptT.run (Act.applyToPlayer u (.discard count filter) p objects)) g =
      (.ok u, h) ∧
      given.Nodup ∧ (∀ c ∈ given, c ∈ eligible) ∧
      given.length = min (max (count.value u.x).toInt 0).toNat eligible.length ∧
      Handed p
        { s with
          hand := ⟨s.hand.cards.filter (· ∉ given)⟩
          pile := ⟨given.reverse ++ s.pile.cards⟩ }
        given .pile
        (if 1 ≤ g.config.maxEventDepth then given.map fun c => ⟨.discard, g.resolving, .card c⟩
        else []) g h := by
  intro s eligible
  let matching := filter.map fun _ => objects.filterMap ObjectRef.card?
  let given := Act.thrown g p (count.value u.x) matching
  have agree := ZonesAgree.of_underway underway
  have distinct : given.Nodup := Act.nodup_thrown (agree.nodup_discardable p matching) _
  have among : Act.discardable g p matching = eligible := by
    cases filter with
    | none => simp [Act.discardable, matching, eligible, s]
    | some m => rfl
  obtain ⟨⟨⟩, h, ran, handed⟩ :=
    (Act.ends_discard_handed agree seated (count.value u.x) matching).succeeds rfl
  have applied : StateT.run (ExceptT.run (Act.applyToPlayer u (.discard count filter) p objects))
      g = (.ok u, h) :=
    Act.run_bind_of_ok ran
  refine ⟨given, h, applied, distinct, fun c mem => among ▸ Act.mem_thrown mem, ?_, ?_⟩
  · rw [Act.length_thrown, among, Amount.times]
    omega
  · have kept : s.hand.cards.diff given = s.hand.cards.filter (· ∉ given) :=
      (agree.nodup_holds p .hand).sdiff_eq_filter
    rw [← Game.discardEvents_of_shallow underway.eventDepth, ← kept]
    exact handed

theorem discard_exact_filledUp :
    ∃ start, Game.create {} [⟨[.blank "Squire", .blank "Page", .blank "Knight"],
        .script [.many [9], .many [2, 2]]⟩, ⟨[], .pass⟩] = .ok start ∧
      let g := Operation.performAll start [.draw ⟨0⟩ 3]
      let u := AbilityUse.fresh ⟨0⟩ .cast ⟨0⟩ ⟨0⟩
      0 < g.players.count ∧ ∃ (given : List CardId) (h : Game),
        StateT.run (ExceptT.run (Act.applyToPlayer u (.discard (.number 2) none) ⟨0⟩ [])) g =
          (.ok u, h) ∧
          given.length = 2 ∧ (h.player ⟨0⟩).pile.cards = given.reverse ∧
          h.events = g.events ++ given.map fun c => ⟨.discard, g.resolving, .card c⟩ := by
  refine ⟨_, rfl, by decide +kernel, ?_⟩
  have reached := reached_performAll {} [⟨[.blank "Squire", .blank "Page", .blank "Knight"],
    .script [.many [9], .many [2, 2]]⟩, ⟨[], .pass⟩] rfl [.draw ⟨0⟩ 3]
  obtain ⟨given, h, ran, -, -, number, handed⟩ := (Underway.reached reached).discard_exact
    (p := ⟨0⟩) (by decide +kernel) (.fresh ⟨0⟩ .cast ⟨0⟩ ⟨0⟩) (.number 2) none []
  refine ⟨given, h, ran, number.trans (by decide +kernel), ?_, ?_⟩
  · rw [handed.player]
    exact List.append_right_eq_self.2 (by decide +kernel)
  · rw [handed.events, if_pos (by decide +kernel)]

theorem discard_untold :
    ∃ start, Game.create { maxEventDepth := 0 } [⟨[.blank "Squire"], .pass⟩, ⟨[], .pass⟩] =
      .ok start ∧
      let g := Operation.performAll start [.draw ⟨0⟩ 1]
      let h := Step.leave (Act.outcome (Act.applyToPlayer (.fresh ⟨0⟩ .cast ⟨0⟩ ⟨0⟩)
        (.discard (.number 1) none) ⟨0⟩ [])) g
      (g.player ⟨0⟩).hand.cards = [⟨0⟩] ∧ (h.player ⟨0⟩).pile.cards = [⟨0⟩] ∧ h.events = g.events :=
  ⟨_, rfl, by decide +kernel⟩

end CardGame
