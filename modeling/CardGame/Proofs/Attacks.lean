import CardGame.Proofs.Failing
import CardGame.Proofs.Power

/-!
What an attack does. The attacker faces the next opponent in seat order who has not lost. A card in
the slot across takes the blow, and otherwise the opponent does; the events on the way only put uses
on the stack, so nobody else is touched. The blow is as strong as the attacker's power, which is not
kept from being negative: then damage is taken back, or life is given.
-/

namespace CardGame

namespace Amount

theorem minus_le {a n : Amount} (positive : 0 ≤ n) : minus a n ≤ a := by
  have taken : (0 : Int) ≤ n.toInt := Int64.le_iff_toInt_le.1 positive
  have high := a.toInt_le
  rw [Int64.le_iff_toInt_le]
  by_cases low : Int64.minValue.toInt ≤ a.toInt - n.toInt
  · rw [minus, toInt_clamp low (by omega)]
    omega
  · rw [minus, clamp, Int64.ofIntClamp, dif_neg low]
    exact a.minValue_le_toInt

end Amount

namespace Game

def seatAfter (g : Game) (p : PlayerId) (n : Nat) : PlayerId :=
  ⟨(p.seat + n) % g.players.count⟩

/-- The opponent whom a player faces: the next one in seat order who has not lost. -/
structure Faces (g : Game) (p q : PlayerId) : Prop where
  playing : (g.player q).lost = false
  next : ∃ n, 0 < n ∧ n < g.players.count ∧ q = g.seatAfter p n ∧
    ∀ k, 0 < k → k < n → (g.player (g.seatAfter p k)).lost

def Unopposed (g : Game) (p : PlayerId) : Prop :=
  ∀ n, 0 < n → n < g.players.count → (g.player (g.seatAfter p n)).lost

variable {g : Game} {p q : PlayerId}

theorem Faces.seated (faces : g.Faces p q) : q.seat < g.players.count := by
  obtain ⟨n, -, -, rfl, -⟩ := faces.next
  exact Nat.mod_lt _ g.players.nonempty

theorem defender?_eq (g : Game) (p : PlayerId) : Act.defender? g p =
    ((List.range (g.players.count - 1)).find? fun k => !(g.player (g.seatAfter p (k + 1))).lost).map
      fun k => g.seatAfter p (k + 1) := by
  have after : ∀ k, (⟨(p.seat + 1 + k) % g.players.count⟩ : PlayerId) = g.seatAfter p (k + 1) := by
    intro k
    rw [seatAfter, Nat.add_assoc, Nat.add_comm 1 k]
  simp only [Act.defender?, after, List.find?_map]
  rfl

theorem faces_of_defender? (found : Act.defender? g p = some q) : g.Faces p q := by
  rw [defender?_eq, Option.map_eq_some_iff] at found
  obtain ⟨n, found, rfl⟩ := found
  obtain ⟨playing, inRange, before⟩ := List.find?_range_eq_some.1 found
  have inRange := List.mem_range.1 inRange
  refine ⟨by simpa using playing, n + 1, Nat.succ_pos n, by omega, rfl, fun k positive less => ?_⟩
  obtain ⟨j, rfl⟩ := Nat.exists_eq_add_of_lt positive
  simpa [Nat.add_comm] using before j (by omega)

theorem unopposed_of_defender? (none : Act.defender? g p = none) : g.Unopposed p := by
  rw [defender?_eq, Option.map_eq_none_iff, List.find?_eq_none] at none
  intro n positive less
  obtain ⟨k, rfl⟩ := Nat.exists_eq_add_of_lt positive
  simpa [Nat.add_comm] using none k (List.mem_range.2 (by omega))

end Game

/-- From one game to another one no player changed, and no card. -/
structure Untouched (g h : Game) : Prop where
  players : h.players = g.players
  cards : h.cards = g.cards

namespace Untouched

variable {f g h : Game}

theorem refl (g : Game) : Untouched g g :=
  ⟨rfl, rfl⟩

theorem trans (first : Untouched f g) (next : Untouched g h) : Untouched f h :=
  ⟨next.players.trans first.players, next.cards.trans first.cards⟩

theorem player (same : Untouched g h) (p : PlayerId) : h.player p = g.player p := by
  rw [Game.player, Game.player, same.players]

theorem card? (same : Untouched g h) (c : CardId) : h.card? c = g.card? c := by
  rw [Game.card?, Game.card?, same.cards]

theorem defender? (same : Untouched g h) (p : PlayerId) :
    Act.defender? h p = Act.defender? g p := by
  simp only [Act.defender?, same.players, same.player]

theorem modifyPlayer (same : Untouched g h) (p : PlayerId) (change : Player → Player) :
    Untouched (g.modifyPlayer p change) (h.modifyPlayer p change) :=
  ⟨congrArg (·.modify p change) same.players, same.cards⟩

theorem modifyCard (same : Untouched g h) (c : CardId) (change : CardInstance → CardInstance) :
    Untouched (g.modifyCard c change) (h.modifyCard c change) :=
  ⟨same.players, congrArg (·.modify c.index change) same.cards⟩

theorem emit {kind : EventKind} (harmless : kind ≠ .lose) (subject : ObjectRef) :
    Step.Keeps (Untouched g) (Step.emit kind subject) := by
  refine fun h same => same.trans ?_
  rcases Nat.lt_or_ge h.eventDepth h.config.maxEventDepth.toNat with room | deep
  · have fires := Step.emit_onlyFires kind subject room
    have unmarked : Step.losersMarked kind subject h.players = h.players := by
      unfold Step.losersMarked
      split
      · exact absurd rfl harmless
      · rfl
    rw [unmarked] at fires
    constructor <;> rw [fires.frame]
  · rw [Step.emit_dropped kind subject deep]
    exact ⟨rfl, rfl⟩

end Untouched

/-- From one game to another one a card went from a board to the top of its owner's pile, as it is
when nothing has happened to it; nothing else changed. -/
structure Buried (c : CardId) (i : CardInstance) (g h : Game) : Prop where
  record : h.card? c = some { i.leaveBoard with controller := i.owner, zone := .pile }
  owner : h.player i.owner = { g.player i.owner with
    board := (g.player i.owner).board.remove c, pile := (g.player i.owner).pile.insert c .top }
  cards : ∀ d, d ≠ c → h.card? d = g.card? d
  players : ∀ p, p ≠ i.owner → h.player p = g.player p

namespace Buried

variable {c : CardId} {i : CardInstance} {g h k : Game}

theorem life (buried : Buried c i g h) (p : PlayerId) : (h.player p).life = (g.player p).life := by
  by_cases owner : p = i.owner
  · rw [owner, buried.owner]
  · rw [buried.players p owner]

theorem later (buried : Buried c i g h) (same : Untouched h k) : Buried c i g k where
  record := (same.card? c).trans buried.record
  owner := (same.player _).trans buried.owner
  cards d other := (same.card? d).trans (buried.cards d other)
  players p other := (same.player p).trans (buried.players p other)

theorem of_writes (housed : Housed g c i) (found : g.card? c = some i) :
    Buried c i g
      ((((g.modifyPlayer i.controller fun p => { p with board := p.board.remove c }).modifyCard c
      fun i => { i.leaveBoard with controller := i.owner }).modifyPlayer i.owner
        (·.modifyPile .pile (·.insert c .top))).modifyCard c fun i =>
          { i with zone := .pile }) := by
  rw [housed.controlled]
  refine ⟨?_, ?_, fun d other => ?_, fun p other => ?_⟩
  · rw [Game.card?_modifyCard_self]
    change Option.map _ (((g.modifyPlayer i.owner _).modifyCard c _).card? c) = _
    rw [Game.card?_modifyCard_self]
    exact congrArg (Option.map _ <| Option.map _ ·) found
  · change ((Game.modifyPlayer _ i.owner _).player i.owner) = _
    rw [Game.player_modifyPlayer_self (Nat.lt_of_lt_of_eq housed.seated
      (Seats.count_modify _ _ _).symm)]
    change ((g.modifyPlayer i.owner _).player i.owner).modifyPile .pile _ = _
    rw [Game.player_modifyPlayer_self housed.seated]
    rfl
  · rw [Game.card?_modifyCard_of_ne _ other.symm]
    exact Game.card?_modifyCard_of_ne _ other.symm _
  · change ((Game.modifyPlayer _ i.owner _).player p) = _
    rw [Game.player_modifyPlayer_of_ne _ other.symm]
    exact Game.player_modifyPlayer_of_ne _ other.symm _

theorem of_modifyCard {f : CardInstance → CardInstance} (buried : Buried c i (g.modifyCard c f) h) :
    Buried c i g h where
  record := buried.record
  owner := buried.owner
  cards d other := (buried.cards d other).trans (Game.card?_modifyCard_of_ne g other.symm f)
  players := buried.players

end Buried

theorem CardInstance.isDead_iff (i : CardInstance) :
    i.isDead ↔ i.card.stats.isSome ∧ i.health ≤ 0 := by
  rw [isDead, Bool.and_eq_true, decide_eq_true_eq]

def CardInstance.hit (i : CardInstance) (n : Amount) : CardInstance :=
  { i with damage := Amount.plus i.damage n }

structure Struck (c : CardId) (i : CardInstance) (n : Amount) (g h : Game) : Prop where
  /-- A card without printed stats, or with health left, stays where it is, with the damage. -/
  endures : ¬(i.card.stats.isSome ∧ (i.hit n).health ≤ 0) → h.card? c = some (i.hit n) ∧
    (∀ d, d ≠ c → h.card? d = g.card? d) ∧ ∀ p, h.player p = g.player p
  dies : i.card.stats.isSome ∧ (i.hit n).health ≤ 0 → Buried c (i.hit n) g h

theorem Struck.later {c : CardId} {i : CardInstance} {n : Amount} {g h k : Game}
    (struck : Struck c i n g h) (same : Untouched h k) : Struck c i n g k := by
  refine ⟨fun alive => ?_, fun dead => (struck.dies dead).later same⟩
  obtain ⟨record, cards, players⟩ := struck.endures alive
  exact ⟨(same.card? c).trans record, fun d other => (same.card? d).trans (cards d other),
    fun p => (same.player p).trans (players p)⟩

/-- From one game to another one a player lost so much life, and perhaps the game, and nothing else
changed. -/
structure Hurt (q : PlayerId) (n : Amount) (g h : Game) : Prop where
  cards : h.cards = g.cards
  struck : h.player q = { g.player q with
    life := Amount.minus (g.player q).life n, lost := (h.player q).lost }
  alive : 0 < (h.player q).life → (h.player q).lost = (g.player q).lost
  players : ∀ p, p ≠ q → h.player p = g.player p

namespace Hurt

variable {q : PlayerId} {n : Amount} {g h : Game}

theorem of_untouched (seated : q.seat < g.players.count)
    (same : Untouched (g.modifyPlayer q fun s => { s with life := Amount.minus s.life n }) h) :
    Hurt q n g h := by
  have struck := (same.player q).trans (Game.player_modifyPlayer_self seated _)
  refine ⟨same.cards, ?_, fun _ => by rw [struck], fun p other => ?_⟩
  · rw [struck]
  · exact (same.player p).trans (Game.player_modifyPlayer_of_ne g other.symm _)

theorem later {k : Game} (hurt : Hurt q n g h) (same : Untouched h k) : Hurt q n g k := by
  refine ⟨same.cards.trans hurt.cards, ?_, ?_,
    fun p other => (same.player p).trans (hurt.players p other)⟩
  · rw [same.player]
    exact hurt.struck
  · rw [same.player]
    exact hurt.alive

theorem emit_lose (hurt : Hurt q n g h) (dead : (h.player q).life ≤ 0) :
    Hurt q n g (StateT.run (Step.emit .lose (.player q)) h).2 := by
  rcases Step.emit_cases .lose (.player q) h with dropped | frame
  · rw [dropped]
    exact hurt.later ⟨rfl, rfl⟩
  · have marked := frame.player q
    refine ⟨frame.cards.trans hurt.cards, ?_, fun alive => ?_, fun p other => ?_⟩
    · rw [marked, hurt.struck]
    · rw [marked] at alive
      exact absurd alive (Int64.not_lt.2 dead)
    · have apart : ObjectRef.player q ≠ .player p := fun same =>
        other (ObjectRef.player.inj same).symm
      rw [frame.player p, hurt.players p other]
      simp [apart]

end Hurt

structure AbilityUse.Attacks (u : AbilityUse) : Prop where
  kind : u.kind = .activated
  effects : u.effects =
    ((AbilityUse.fresh u.id .activated u.source u.controller).prepare
      Activated.attack.effect).effects

inductive AttackEnds (i : CardInstance) (g h : Game) : Prop
  | unopposed (alone : g.Unopposed i.controller) (same : Untouched g h)
  /-- A card in the slot of the opponent that faces the attacker takes the blow. -/
  | blocked {q : PlayerId} {slot : Nat} {b : CardId} {j : CardInstance}
      (faces : g.Faces i.controller q)
      (across : i.slot = some slot) (held : (g.player q).board.get? slot = some b)
      (found : g.card? b = some j) (owned : j.owner = q) (boarded : j.zone = .board)
      (struck : Struck b j i.power g h)
  | unblocked {q : PlayerId} (faces : g.Faces i.controller q)
      (free : ∀ slot, i.slot = some slot → (g.player q).board.get? slot = none)
      (hurt : Hurt q i.power g h)

/-- From one game to another one nobody gained life, and no card lost damage but one that died. -/
structure OnlyHurts (g h : Game) : Prop where
  life : ∀ p, (h.player p).life ≤ (g.player p).life
  damage : ∀ c i, g.card? c = some i → ∃ j, h.card? c = some j ∧
    (i.damage ≤ j.damage ∨ i.zone = .board ∧ j.zone = .pile)

theorem OnlyHurts.of_others {g h : Game} {c : CardId} {i : CardInstance}
    (life : ∀ p, (h.player p).life ≤ (g.player p).life) (found : g.card? c = some i)
    (own : ∃ j, h.card? c = some j ∧ (i.damage ≤ j.damage ∨ i.zone = .board ∧ j.zone = .pile))
    (others : ∀ d, d ≠ c → h.card? d = g.card? d) : OnlyHurts g h := by
  refine ⟨life, fun d j known => ?_⟩
  by_cases same : d = c
  · subst same
    obtain rfl := Option.some.inj (found.symm.trans known)
    exact own
  · exact ⟨j, (others d same).trans known, .inl (Int64.le_refl _)⟩

namespace AttackEnds

variable {i : CardInstance} {g h k : Game}

theorem later (ends : AttackEnds i g h) (same : Untouched h k) : AttackEnds i g k := by
  cases ends with
  | unopposed alone before => exact .unopposed alone (before.trans same)
  | blocked faces across held found owned boarded struck =>
    exact .blocked faces across held found owned boarded (struck.later same)
  | unblocked faces free hurt => exact .unblocked faces free (hurt.later same)

theorem onlyHurts (ends : AttackEnds i g h) (positive : 0 ≤ i.power) : OnlyHurts g h := by
  cases ends with
  | unopposed alone same =>
    refine ⟨fun p => by rw [same.player]; exact Int64.le_refl _, fun c j known => ?_⟩
    exact ⟨j, (same.card? c).trans known, .inl (Int64.le_refl _)⟩
  | @blocked q slot b j faces across held found owned boarded struck =>
    by_cases dead : j.card.stats.isSome ∧ (j.hit i.power).health ≤ 0
    · have buried := struck.dies dead
      exact .of_others (fun p => by rw [buried.life]; exact Int64.le_refl _) found
        ⟨_, buried.record, .inr ⟨boarded, rfl⟩⟩ buried.cards
    · obtain ⟨record, cards, players⟩ := struck.endures dead
      exact .of_others (fun p => by rw [players]; exact Int64.le_refl _) found
        ⟨_, record, .inl (Amount.le_plus positive)⟩ cards
  | @unblocked q faces free hurt =>
    refine ⟨fun p => ?_, fun c j known => ⟨j, ?_, .inl (Int64.le_refl _)⟩⟩
    · by_cases struck : p = q
      · rw [struck, hurt.struck]
        exact Amount.minus_le positive
      · rw [hurt.players p struck]
        exact Int64.le_refl _
    · rw [Game.card?, hurt.cards]
      exact known

end AttackEnds

namespace Act

variable {c : CardId} {i : CardInstance} {g : Game} {F : EngineError → Game → Prop}

theorem ends_emit_untouched {kind : EventKind} (harmless : kind ≠ .lose) (subject : ObjectRef) :
    Ends (Untouched g) (liftM (Step.emit kind subject)) (fun _ => Untouched g) F :=
  ends_step (Untouched.emit harmless subject)

theorem ends_card_untouched (found : g.card? c = some i) :
    Ends (Untouched g) (card c) (fun j h => j = i ∧ Untouched g h) F :=
  ends_readCard fun _ same => (same.card? c).trans found

theorem ends_moveCard_buried (housed : Housed g c i) (found : g.card? c = some i)
    (boarded : i.zone = .board) :
    Ends (Untouched g) (moveCard c .pile .top) (fun _ => Buried c i g) F := by
  refine (ends_card_untouched found).bind fun j => .given fun same => ?_
  subst same
  have unslotted : Ends (Untouched g) (slotFor c j .pile .top) (fun slot h => slot = none ∧
      Untouched g h) F := by
    rw [slotFor, if_pos nofun]
    exact ends_pure fun _ same => ⟨rfl, same⟩
  refine unslotted.bind fun slot => .given fun none => ?_
  subst none
  let taken := (g.modifyPlayer j.controller fun p =>
    { p with board := p.board.remove c }).modifyCard c
    fun i => { i.leaveBoard with controller := i.owner }
  have takes : Ends (Untouched g) (takeOut c j) (fun _ => Untouched taken) F := by
    rw [takeOut, if_pos boarded]
    refine (ends_emit_untouched (by decide) _).bind fun _ =>
      (ends_card_untouched found).bind fun k =>
      .given fun same => ?_
    subst same
    exact ends_modifyThe fun _ same => (same.modifyPlayer _ _).modifyCard _ _
  have puts : Ends (Untouched taken) (putInto c j .pile .top none) (fun _ => Buried c j g) F := by
    refine (ends_modifyThe (Q := fun _ => Untouched (taken.modifyPlayer j.owner
      (·.modifyPile .pile (·.insert c .top)))) fun _ same => same.modifyPlayer _ _).bind fun _ => ?_
    exact ends_modifyThe fun _ same => (Buried.of_writes housed found).later (same.modifyCard _ _)
  exact takes.bind fun _ => puts.bind fun _ => ends_pure fun _ buried => buried

theorem ends_dealDamage_struck (agree : ZonesAgree g) (found : g.card? c = some i)
    (boarded : i.zone = .board)
    (n : Amount) : Ends (Untouched g) (dealDamage c n) (fun _ => Struck c i n g) F := by
  let marked := g.modifyCard c (·.hit n)
  have record : marked.card? c = some (i.hit n) := by
    rw [Game.card?_modifyCard_self, found]
    rfl
  have marks : Ends (Untouched g) (changeCard c (·.hit n)) (fun _ => Untouched marked) F :=
    (ends_card_untouched found).bind fun _ => ends_modifyThe fun _ start => start.2.modifyCard _ _
  refine marks.bind fun _ => (ends_emit_untouched (by decide) _).bind fun _ => ?_
  refine (ends_card_untouched record).bind fun j => .given fun same => ?_
  subst same
  split
  · next lethal =>
    have dead := (i.hit n).isDead_iff.1 lethal.2
    have unmoved : ∀ j : CardInstance, (j.hit n).place = j.place := fun _ => rfl
    have settled : ZonesAgree marked := agree.of_stays fun _ => .modifyCard unmoved c
    refine (ends_moveCard_buried ((settled c).housed _ record) record boarded).bind fun _ => ?_
    exact ends_lift fun h buried => ⟨fun alive => absurd dead alive, fun _ =>
      (buried.later (Untouched.emit (by decide) _ h (.refl h))).of_modifyCard⟩
  · next spared =>
    have alive : ¬(i.card.stats.isSome ∧ (i.hit n).health ≤ 0) :=
      fun dead => spared ⟨boarded, (i.hit n).isDead_iff.2 dead⟩
    refine ends_pure fun h same => ⟨fun _ =>
      ⟨(same.card? c).trans record, fun d other => ?_, fun p => ?_⟩, fun dead => absurd dead alive⟩
    · exact (same.card? d).trans (Game.card?_modifyCard_of_ne g other.symm _)
    · exact same.player p

theorem ends_loseLife_hurt {q : PlayerId} (seated : q.seat < g.players.count) (n : Amount) :
    Step.Ends (Untouched g) (Step.loseLife q n) fun _ => Hurt q n g := by
  let taken := g.modifyPlayer q fun s => { s with life := Amount.minus s.life n }
  have takes : Step.Ends (Untouched g)
      (modify (·.modifyPlayer q fun s => { s with life := Amount.minus s.life n }) : Step Unit)
      fun _ => Untouched taken := fun _ same => same.modifyPlayer _ _
  refine takes.bind fun _ => (Untouched.emit (by decide) _).ends.bind fun _ => ?_
  have read : Step.Ends (Untouched taken) get fun known h => known = h ∧ Untouched taken h :=
    Step.ends_get fun _ same => ⟨rfl, same⟩
  refine read.bind fun known h => ?_
  rintro ⟨rfl, same⟩
  have hurt := Hurt.of_untouched seated same
  dsimp only
  split
  · next dead => exact hurt.emit_lose dead.1
  · exact hurt

theorem ends_attack_ends (agree : ZonesAgree g) (found : g.card? c = some i) :
    Ends (Untouched g) (attack c) (fun _ => AttackEnds i g) F := by
  refine (ends_card_untouched found).bind fun j => .given fun same => ?_
  subst same
  refine (ends_emit_untouched (by decide) _).bind fun _ => ends_readGame.bind fun known => ?_
  -- the event of the attack has changed nothing of what is looked at
  refine Ends.starting (P := fun h => Untouched g known ∧ Untouched g h) (.given fun seen => ?_)
    fun h start => ⟨start.1 ▸ start.2, start.2⟩
  rw [seen.defender?]
  split
  · next alone => exact ends_pure fun h same => .unopposed (Game.unopposed_of_defender? alone) same
  · next q facing =>
    have faces := Game.faces_of_defender? facing
    rw [seen.player]
    split
    · next b across =>
      obtain ⟨slot, across, held⟩ := Option.bind_eq_some_iff.1 across
      obtain ⟨k, known⟩ := Option.isSome_iff_exists.1 (known_of_slot agree held)
      obtain ⟨owner, boarded⟩ := ((agree b).housed k known).eq_of_holds (p := q) (z := .board)
        (Board.mem_cards_of_get? held)
      refine (ends_emit_untouched (by decide) _).bind fun _ => ?_
      exact (ends_dealDamage_struck agree known boarded.symm _).after fun _ h struck =>
        .blocked faces across held known owner.symm boarded.symm struck
    · next free =>
      have struck : Ends (Untouched g) (liftM (Step.loseLife q j.power))
          (fun _ => AttackEnds j g) F :=
        ends_lift ((ends_loseLife_hurt faces.seated _).weaken (fun _ same => same) fun _ h hurt =>
          .unblocked faces (fun slot own => Option.bind_eq_none_iff.1 free slot own) hurt)
      exact struck.bind fun _ => ends_lift fun h ends =>
        ends.later (Untouched.emit (by decide) _ h (.refl h))

theorem ends_resolveEffects_attack {u : AbilityUse} (attacks : u.Attacks) (agree : ZonesAgree g)
    (found : g.card? u.source = some i) :
    Ends (Untouched g) (resolveEffects u) (fun _ => AttackEnds i g) F := by
  rw [resolveEffects, attacks.effects]
  have attacked : Ends (Untouched g) (do [u.source].forM attack; return (⟨u, []⟩ : Resolution))
      (fun _ => AttackEnds i g) F :=
    Ends.bind ((ends_attack_ends agree found).bind fun _ => ends_pure fun _ ends => ends) fun _ =>
      ends_pure fun _ ends => ends
  have resolved : Ends (Untouched g) (List.foldlM resolveEffect ⟨u, []⟩
      ((AbilityUse.fresh u.id .activated u.source u.controller).prepare
        Activated.attack.effect).effects)
      (fun _ => AttackEnds i g) F :=
    (ends_readGame.bind fun _ => attacked.starting fun _ start => start.2).bind fun _ =>
      ends_pure fun _ ends => ends
  exact resolved.bind fun _ => ends_pure fun _ ends => ends

theorem ends_activateFor_attack (p : PlayerId) (c : CardId) (x : Amount) :
    Ends (fun _ => True) (activateFor p c .attack x)
      (fun _ h => ∃ u, h.stack.pop.1 = some u ∧ u.Attacks ∧ u.source = c) fun _ _ => True := by
  have anyhow : ∀ {α : Type} {act : Act α},
      Ends (fun _ => True) act (fun _ _ => True) fun _ _ => True :=
    Keeps.leads fun _ _ => trivial
  refine anyhow.bind fun _ => anyhow.bind fun id => ?_
  -- nothing else is paid for it and nothing is chosen, so the use goes onto the stack as it is
  -- unfolded
  let u := { AbilityUse.fresh id .activated c p with x := x }.prepare Activated.attack.effect
  refine fun h _ => (⟨u, ?_, ⟨rfl, rfl⟩, rfl⟩ : ∃ v,
    (h.modifyStack (·.push u)).stack.pop.1 = some v ∧
    v.Attacks ∧ v.source = c)
  exact congrArg Prod.fst (h.stack.pop_push u)

end Act

structure AttackResolves (u : AbilityUse) (i : CardInstance) (g : Game) : Prop where
  succeeds : (StateT.run (ExceptT.run (Act.resolveUse u)) g).1 = .ok ()
  ends : AttackEnds i g (StateT.run (ExceptT.run (Act.resolveUse u)) g).2
  hurts : 0 ≤ i.power → OnlyHurts g (StateT.run (ExceptT.run (Act.resolveUse u)) g).2

theorem ZonesAgree.attack_ends {g : Game} (agree : ZonesAgree g) {u : AbilityUse}
    (attacks : u.Attacks)
    {i : CardInstance} (found : g.card? u.source = some i) : AttackResolves u i g := by
  have activated : u.kind ≠ .cast := by
    rw [attacks.kind]
    decide
  have resolved : Act.Ends (Untouched g) (Act.resolveEffects u >>= fun _ => pure ())
      (fun _ => AttackEnds i g) fun _ _ => False :=
    (Act.ends_resolveEffects_attack attacks agree found).bind fun _ =>
      Act.ends_pure fun _ ends => ends
  obtain ⟨_, h, ran, ends⟩ :=
    resolved.succeeds (g := { g with resolving := some u.source }) ⟨rfl, rfl⟩
  have finished : StateT.run (ExceptT.run (Act.resolveUse u)) g =
      (.ok (), { h with resolving := g.resolving }) := by
    rw [Act.run_resolveUse activated, Act.run_onBehalfOf, ran]
  have ended : AttackEnds i g (StateT.run (ExceptT.run (Act.resolveUse u)) g).2 := by
    rw [finished]
    exact ends.later ⟨rfl, rfl⟩
  exact ⟨congrArg Prod.fst finished, ended, ended.onlyHurts⟩

/-- In every game that can come about, with whatever is on the stack by then, the attack of a card
resolves without fail. Nobody is touched but the next opponent in seat order who has not lost: a
card in the slot across takes the attacker's power as damage and goes to the pile exactly when that
leaves it without health, and otherwise the opponent loses as much life. It only hurts as long as
the power is not negative, which it is not in the course of a game of cards that were read from text
when none of them takes power away. -/
theorem attack_resolves {config : RulesConfig} {entrants : List Entrant} {start g : Game}
    (created : Game.create config entrants = .ok start)
    (course : ReachedFrom start (fun _ => True) g)
    (stack : PriorityStack) {u : AbilityUse} (attacks : u.Attacks) {i : CardInstance}
    (found : g.card? u.source = some i) :
    AttackResolves u i { g with stack := stack } ∧
    (ReachedFrom start (fun op => op.plays) g →
      (∀ e ∈ entrants, ∀ card ∈ e.deck, ∃ text, Grammar.parse text = .ok card) →
      (∀ e ∈ entrants, ∀ card ∈ e.deck, card.weakens = false) → 0 ≤ i.power) := by
  have agree := ZonesAgree.of_reached ⟨config, entrants, start, created, course⟩
  have restacked : ZonesAgree { g with stack := stack } := agree.of_frame rfl rfl
  exact ⟨restacked.attack_ends attacks found, fun course read spares =>
    course.power_nonnegative created read spares found⟩

def Card.squire : Card :=
  ((blank "Squire").withKind ⟨.unit, false⟩).withStats ⟨.number 1, .number 1⟩

def Card.curse : Card :=
  ((blank "Curse").withKind ⟨.spell, false⟩).withAbility (.composed ⟨[.card
    (some [.filter ⟨some .target, [.kind ⟨.unit, false⟩], none, none, []⟩])
    [.gets .minus (.number 3) .plus (.number 0)]]⟩)

/-- The opponent of a cursed unit gains two life by its attack. -/
theorem attack_resolves_cursed :
    ∃ start, Game.create {} [⟨[.squire, .curse], .first⟩, ⟨[], .pass⟩] = .ok start ∧
      Grammar.parse "Squire\nUnit\n1/1" = .ok .squire ∧
      Grammar.parse "Curse\nSpell\nTarget unit gets -3/+0." = .ok .curse ∧
      let g := Operation.performAll start [.enterPhase .draw, .enterPhase .draw, .enterPhase .play,
        .cast ⟨0⟩ ⟨0⟩ none, .resolveTop, .cast ⟨0⟩ ⟨1⟩ none, .resolveTop, .enterPhase .start,
        .enterPhase .play, .activate ⟨0⟩ ⟨0⟩ 0]
      let popped := { g with stack := g.stack.pop.2 }
      ∃ u i, g.stack.pop.1 = some u ∧ u.Attacks ∧ g.card? u.source = some i ∧ i.power = -2 ∧
        AttackResolves u i popped ∧ (popped.player ⟨1⟩).life = 20 ∧
        ((StateT.run (ExceptT.run (Act.resolveUse u)) popped).2.player ⟨1⟩).life = 22 := by
  refine ⟨_, rfl, by decide +kernel, by decide +kernel, (PriorityStack.pop _).1.get (by
    decide +kernel), (Game.card? _ _).get (by decide +kernel), (Option.some_get _).symm, ?attacks,
    (Option.some_get _).symm, by decide +kernel, ?_, by decide +kernel, by decide +kernel⟩
  case attacks => exact ⟨by decide +kernel, by decide +kernel⟩
  have created : Game.create {} [⟨[.squire, .curse], .first⟩, ⟨[], .pass⟩] = .ok _ := rfl
  exact (attack_resolves created (.performAll .start _ fun _ _ => trivial) _
    ⟨by decide +kernel, by decide +kernel⟩ (Option.some_get _).symm).1

end CardGame
