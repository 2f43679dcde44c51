import CardGame.Proofs.Survival

/-!
The news of losing. A player is told to have lost when life runs out, which is announced only to who
has not lost yet, and when drawing from an empty deck, which is announced each time. So the news
comes to a player a second time only once the deck has run out; and a deck that has run out stays
empty, unless some effect puts cards into it.
-/

namespace CardGame

def Entry.tellsLoss (p : PlayerId) : Entry → Bool
  | .emitted e => e.kind == .lose && e.subject == .player p
  | _ => false

def Game.losses (g : Game) (p : PlayerId) : Nat :=
  g.chronicle.toList.countP (·.tellsLoss p)

def SingleEffect.refillsDecks (e : SingleEffect) : Bool :=
  e.sendsTo .deck

def Card.refillsDecks (c : Card) : Bool :=
  c.effects.any (·.refillsDecks)

theorem Game.losses_record (g : Game) (e : Entry) (p : PlayerId) :
    (g.record e).losses p = g.losses p + if e.tellsLoss p then 1 else 0 := by
  simp [losses, record]

theorem Entry.tellsLoss_of_isTalk {e : Entry} (talk : e.isTalk) (p : PlayerId) :
    e.tellsLoss p = false := by
  cases e with
  | emitted e => exact nomatch talk
  | _ => rfl

theorem Game.losses_talk {g h : Game} {q : PlayerId} (talks : Talks q g h) (p : PlayerId) :
    h.losses p = g.losses p := by
  obtain ⟨entries, same, about⟩ := talks.said
  have silent : entries.countP (·.tellsLoss p) = 0 := by
    refine List.countP_eq_zero.2 fun e mem => ?_
    have question := about e mem
    cases e with
    | emitted e => exact question.elim
    | _ => exact Bool.false_ne_true
  rw [losses, same, Array.toList_append, List.countP_append, silent]
  rfl

theorem keptByFiring_losses (p : PlayerId) (n : Nat) :
    KeptByFiring (fun _ => True) fun g => g.losses p = n := by
  have quietly : ∀ (g : Game) (e : Entry), e.tellsLoss p = false → g.losses p = n →
      (g.record e).losses p = n := by
    intro g e silent told
    rw [g.losses_record, silent, told]
    rfl
  exact
    { targeting := (KeptByTalk.of_entries fun g choosers e talk told =>
        quietly { g with choosers := choosers } e (Entry.tellsLoss_of_isTalk talk p) told).targeting
      triggered := fun _ _ _ _ => trivial
      numbered := fun _ told => told
      pushed := fun _ _ told _ => told
      handled := fun g _ _ told => quietly g _ rfl told
      target := fun g _ told => quietly g _ rfl told
      dropped := fun g _ told => quietly g _ rfl told
      returned := fun _ told => told }

theorem Step.emit_tells (kind : EventKind) (subject : ObjectRef) (g : Game) (p : PlayerId) :
    let h := (StateT.run (emit kind subject) g).2
    h.players.count = g.players.count ∧
      (h.player p = g.player p ∧ h.losses p = g.losses p ∨
        (kind = .lose ∧ subject = .player p) ∧ h.player p = { g.player p with lost := true } ∧
          h.losses p = g.losses p + 1) := by
  intro h
  have k := keptByFiring_losses p
  rcases Nat.lt_or_ge g.eventDepth g.config.maxEventDepth.toNat with room | deep
  case inr =>
    have same : h = g.record (.noticed (.eventDropped g.eventDepth kind subject)) :=
      congrArg Prod.snd (emit_dropped kind subject deep)
    rw [same]
    exact ⟨rfl, .inl ⟨rfl, g.losses_record _ p⟩⟩
  · have run := emit_eq_react kind subject room
    have frame := emit_leaves kind subject room
    have told : h.losses p = (g.record (.emitted ⟨kind, g.resolving, subject⟩)).losses p := by
      refine (congrArg (fun r => r.2.losses p) run).trans ?_
      exact (k _).keeps_react (k _).keeps_target kind subject _ _ rfl
    have player := frame.player p
    rw [g.losses_record] at told
    refine ⟨frame.seats, ?_⟩
    by_cases about : kind = .lose ∧ subject = .player p
    · rw [decide_eq_true about, Bool.or_true] at player
      exact .inr ⟨about, player, told.trans (by simp [Entry.tellsLoss, about])⟩
    · rw [decide_eq_false about, Bool.or_false] at player
      have silent : (Entry.emitted ⟨kind, g.resolving, subject⟩).tellsLoss p = false := by
        simpa [Entry.tellsLoss] using about
      exact .inl ⟨player, told.trans (by rw [silent]; rfl)⟩

theorem Game.seated_of_playing {g : Game} {p : PlayerId} (playing : (g.player p).lost = false) :
    p.seat < g.players.count := by
  by_contra beyond
  rw [player, Seats.get?, List.getElem?_eq_none (Nat.le_of_not_lt beyond)] at playing
  exact Bool.false_ne_true playing.symm

/-- A player at the table has been told of losing exactly when that is so, and a player is told at
most once unless decks are refilled or the player's is empty. -/
structure Announced (refilled : Prop) (p : PlayerId) (g : Game) : Prop where
  told : p.seat < g.players.count → ((g.player p).lost = true ↔ 0 < g.losses p)
  once : refilled ∨ (g.player p).deck.cards = [] ∨ g.losses p ≤ 1

namespace Announced

variable {refilled : Prop} {p : PlayerId} {g h : Game}

theorem of_eq (announced : Announced refilled p g) (players : h.players = g.players)
    (losses : h.losses p = g.losses p) : Announced refilled p h := by
  have player : h.player p = g.player p := by rw [Game.player, Game.player, players]
  refine ⟨?_, ?_⟩
  · rw [players, player, losses]
    exact announced.told
  · rw [player, losses]
    exact announced.once

theorem of_players (announced : Announced refilled p g) (seats : h.players.count = g.players.count)
    (lost : (h.player p).lost = (g.player p).lost) (losses : h.losses p = g.losses p)
    (deck : refilled ∨ ((g.player p).deck.cards = [] → (h.player p).deck.cards = [])) :
    Announced refilled p h := by
  refine ⟨by rw [seats, lost, losses]; exact announced.told, ?_⟩
  rcases announced.once with free | empty | once
  · exact .inl free
  · exact deck.imp id fun kept => .inl (kept empty)
  · exact .inr (.inr (losses ▸ once))

theorem modifyPlayer (announced : Announced refilled p g) {q : PlayerId} {f : Player → Player}
    (lost : (f (g.player q)).lost = (g.player q).lost)
    (deck : refilled ∨ ((g.player q).deck.cards = [] → (f (g.player q)).deck.cards = [])) :
    Announced refilled p (g.modifyPlayer q f) := by
  have seats : (g.modifyPlayer q f).players.count = g.players.count := Seats.count_modify _ _ _
  obtain same | ⟨rfl, changed⟩ := g.player_modifyPlayer q p f
  · exact announced.of_players seats (by rw [same]) rfl (.inr fun empty => same ▸ empty)
  · exact announced.of_players seats (by rw [changed, lost]) rfl (by rw [changed]; exact deck)

theorem account (announced : Announced refilled p g) {f : Player → Player} (accounts : Accounts f)
    (q : PlayerId) : Announced refilled p (g.modifyPlayer q f) :=
  announced.modifyPlayer (by rw [accounts.frame])
    (.inr fun empty => by rw [accounts.frame]; exact empty)

theorem shelve (announced : Announced refilled p g) {goal : Zone} (may : goal = .deck → refilled)
    {f : Player → Player} (shelves : ShelvesFor goal f) (q : PlayerId) :
    Announced refilled p (g.modifyPlayer q f) := by
  refine announced.modifyPlayer (by rw [shelves.shelves]) ?_
  by_cases deck : goal = .deck
  · exact .inl (may deck)
  · exact .inr fun empty => List.subset_nil.1 (empty ▸ shelves.deck deck (g.player q))

theorem record (announced : Announced refilled p g) {e : Entry} (silent : e.tellsLoss p = false) :
    Announced refilled p (g.record e) :=
  announced.of_eq rfl (by rw [Game.losses_record, silent]; rfl)

theorem talk : KeptByTalk (Announced refilled p) :=
  .of_entries fun g choosers _ talk announced =>
    (announced.of_eq (h := { g with choosers := choosers }) rfl rfl).record
      (Entry.tellsLoss_of_isTalk talk p)

theorem emit {kind : EventKind} {subject : ObjectRef}
    (other : ¬(kind = .lose ∧ subject = .player p)) :
    Step.Keeps (Announced refilled p) (Step.emit kind subject) := by
  intro g announced
  obtain ⟨seats, ⟨player, losses⟩ | ⟨about, -⟩⟩ := Step.emit_tells kind subject g p
  · exact announced.of_players seats (by rw [player]) losses (.inr fun empty => player ▸ empty)
  · exact absurd about other

theorem emit_lose (announced : Announced refilled p g) {q : PlayerId}
    (reason : (g.player q).lost = false ∨ (g.player q).deck.cards = []) :
    Announced refilled p (StateT.run (Step.emit .lose (.player q)) g).2 := by
  obtain ⟨seats, ⟨player, losses⟩ | ⟨⟨-, same⟩, player, losses⟩⟩ :=
    Step.emit_tells .lose (.player q) g p
  · exact announced.of_players seats (by rw [player]) losses (.inr fun empty => player ▸ empty)
  · obtain rfl := ObjectRef.player.inj same
    refine ⟨fun _ => ?_, ?_⟩
    · rw [player, losses]
      simp
    · rw [player, losses]
      rcases reason with playing | empty
      · have told := announced.told (Game.seated_of_playing playing)
        rw [playing] at told
        have none : ¬0 < g.losses q := fun some => Bool.false_ne_true (told.2 some)
        exact .inr (.inr (by omega))
      · exact .inr (.inl empty)

theorem moveCard (c : CardId) {goal : Zone} (may : goal = .deck → refilled) (position : Position) :
    Act.Keeps (Announced refilled p) (Act.moveCard c goal position) :=
  Act.keeps_moveCard_with (fun _ => emit nofun)
    (fun shelves _ q announced => announced.shelve may shelves q)
    (fun _ _ announced => announced.of_eq rfl rfl) position

theorem keptByEffects : KeptByEffects (fun x e => 0 ≤ x ∧ (e.refillsDecks → refilled))
    (Announced refilled p) where
  saying := talk
  announce kind subject plain := emit fun about => by
    rw [about.1] at plain
    exact nomatch plain
  exhausted g q announced empty := announced.emit_lose (.inr (List.head?_eq_none_iff.1 empty))
  send sending := moveCard _ (fun deck => by
    obtain ⟨x, e, allowed, sent⟩ := sending (.inr deck)
    rw [deck] at sent
    exact allowed.2 sent) _
  spawn _ owner := Act.keeps_createCard_of (fun _ announced => announced.of_eq rfl rfl)
    fun c => moveCard c nofun _
  damage _ _ _ announced _ := announced.of_eq rfl rfl
  bonus _ _ _ announced := announced.of_eq rfl rfl
  activate _ _ _ announced := announced.of_eq rfl rfl
  deactivate _ _ announced := announced.of_eq rfl rfl
  store stores _ q announced := announced.account stores.accounts q
  harm q n := Step.keeps_loseLife_with (fun _ announced => announced.account (.ofLife _) q)
    (emit nofun)
    fun _ announced playing => announced.emit_lose (.inl playing)
  heal _ q := Step.keeps_gainLife_of (fun _ announced => announced.account (.ofLife _) q)
    (emit nofun)
  shuffle q z := by
    refine Step.keeps_modify fun g announced => ?_
    split
    · exact announced
    · next pile held =>
      have perm := pile.shuffle_perm g.random
      have shuffled : Announced refilled p
          (g.modifyPlayer q (·.modifyPile z fun _ => (pile.shuffle g.random).1)) := by
        refine announced.modifyPlayer (by cases z <;> rfl) (.inr fun empty => ?_)
        cases z with
        | deck =>
          obtain rfl := Option.some.inj held
          exact List.perm_nil.1 (empty ▸ perm)
        | _ => exact empty
      exact shuffled.of_eq rfl rfl
  random _ _ announced := announced.of_eq rfl rfl
  resolving _ _ announced := announced.of_eq rfl rfl

theorem keptByPrints : KeptByPrints (fun e => e.refillsDecks → refilled)
    (Announced refilled p) := by
  refine .of_stackless keptByEffects (fun talks announced => ?_)
    (fun _ _ _ announced => announced.of_eq rfl rfl)
    (fun c => moveCard c nofun) (fun _ _ _ announced => announced.of_eq rfl rfl)
    (fun _ _ announced => announced.of_eq rfl rfl) fun g announced => ?_
  · exact announced.of_eq (by rw [talks.frame]) (Game.losses_talk talks p)
  · refine announced.of_players (Seats.count_mapWithSeat _ _) ?_ rfl (.inr fun empty => ?_)
    · exact g.player_mapWithSeat (fun _ s => { s with life := g.config.startLife }) Player.lost
        (fun _ _ => rfl) p
    · exact (g.player_mapWithSeat (fun _ s => { s with life := g.config.startLife }) (·.deck.cards)
        (fun _ _ => rfl) p).trans empty

end Announced

structure Untold (p : PlayerId) (g : Game) : Prop where
  playing : p.seat < g.players.count → (g.player p).lost = false
  silence : g.losses p = 0

namespace Untold

variable {p : PlayerId} {g : Game}

theorem announced (untold : Untold p g) (refilled : Prop) : Announced refilled p g := by
  refine ⟨fun seated => ?_, .inr (.inr ?_)⟩
  · rw [untold.playing seated, untold.silence]
    exact ⟨nofun, nofun⟩
  · rw [untold.silence]
    exact Nat.zero_le 1

theorem create {config : RulesConfig} {entrants : List Entrant}
    (created : Game.create config entrants = .ok g) : Untold p g := by
  refine Game.create_induction created (fun seats => ⟨fun seated => ?_, rfl⟩)
    fun g owner template _ _ untold => ⟨fun seated => ?_, untold.silence⟩
  · rw [Game.player, Seats.get?, List.getElem?_eq_getElem seated]
    simp [Game.bare, Seats.map, Seats.mapWithSeat, Player.initial]
  · have playing := untold.playing (Nat.lt_of_lt_of_eq seated (g.players_layOut owner template))
    obtain same | ⟨-, laid⟩ := g.player_modifyPlayer owner p
      fun s => { s with deck := s.deck.insert ⟨g.cards.size⟩ .bottom }
    · exact (congrArg Player.lost same).trans playing
    · exact (congrArg Player.lost laid).trans playing

end Untold

theorem Step.losses_loseLife {g : Game} {p : PlayerId} (lost : (g.player p).lost = true)
    (q : PlayerId) (n : Amount) : (Step.leave (loseLife q n) g).losses p = g.losses p := by
  let Told : Game → Prop := fun h => (h.player p).lost = true ∧ h.losses p = g.losses p
  have emitted : ∀ kind subject, ¬(kind = .lose ∧ subject = .player p) →
      Keeps Told (emit kind subject) := by
    intro kind subject other h told
    obtain ⟨-, ⟨player, losses⟩ | ⟨about, -⟩⟩ := emit_tells kind subject h p
    · exact ⟨player ▸ told.1, losses.trans told.2⟩
    · exact absurd about other
  have kept : Keeps Told (loseLife q n) := by
    refine keeps_loseLife_with (fun h told => ⟨?_, told.2⟩)
      (emitted _ _ nofun) fun h told playing => ?_
    · refine Game.player_modifyPlayer_of (Q := (·.lost = true)) told.1 (fun _ lost => ?_) q
      exact lost
    · refine emitted _ _ (fun about => ?_) h told
      obtain rfl := ObjectRef.player.inj about.2
      exact Bool.false_ne_true (playing.symm.trans told.1)
  exact (kept g ⟨lost, rfl⟩).2

structure LosingTold (entrants : List Entrant) (g : Game) (p : PlayerId) : Prop where
  /-- A player at the table who has lost was told so, and no other one was. -/
  told : p.seat < g.players.count → ((g.player p).lost = true ↔ 1 ≤ g.losses p)
  /-- A second time comes with an empty deck, unless some card of the entrants refills decks. -/
  again : 2 ≤ g.losses p →
    (g.player p).deck.cards = [] ∨ ∃ e ∈ entrants, ∃ card ∈ e.deck, card.refillsDecks
  /-- Who has lost is not told again when life is taken. -/
  life : (g.player p).lost = true → ∀ q n, (Step.leave (Step.loseLife q n) g).losses p = g.losses p

/-- In the course of a game, however long and with whatever cards, who has lost was told so; a
second time only once the deck has run out, and never for want of life. -/
theorem losingTold {config : RulesConfig} {entrants : List Entrant} {start g : Game}
    (created : Game.create config entrants = .ok start)
    (course : ReachedFrom start (fun op => op.plays) g) (p : PlayerId) :
    LosingTold entrants g p := by
  let refilled : Prop := ∃ e ∈ entrants, ∃ card ∈ e.deck, card.refillsDecks
  have rules : AllowsRules fun e => e.refillsDecks → refilled := ⟨nofun, fun _ => nofun⟩
  have only : ∀ e ∈ entrants, ∀ card ∈ e.deck, card.Only fun effect => effect.refillsDecks →
      refilled :=
    fun e seat card mem effect printed refills =>
      ⟨e, seat, card, mem, List.any_eq_true.2 ⟨effect, printed, refills⟩⟩
  have kept : KeptByPrints (fun e => e.refillsDecks → refilled) (Announced refilled p) :=
    Announced.keptByPrints
  obtain ⟨-, announced⟩ := (kept.course rules).reachedFrom
    ⟨Prints.create created only, (Untold.create created).announced _⟩ course
  refine ⟨announced.told, fun twice => ?_, fun lost q n => Step.losses_loseLife lost q n⟩
  rcases announced.once with free | empty | once
  · exact .inr free
  · exact .inl empty
  · omega

def Card.insight : Card :=
  ((blank "Insight").withKind ⟨.spell, false⟩).withAbility
    (.composed ⟨[.player none false [.draw .one], .player none false [.draw .one]]⟩)

/-- The last card of a deck lets its player draw twice more: the player loses, and is told so
twice. -/
theorem losingTold_insight :
    ∃ start, Game.create {} [⟨[.insight], .pass⟩, ⟨[], .pass⟩] = .ok start ∧
      let g := Operation.performAll start [.enterPhase .draw, .enterPhase .play, .cast ⟨0⟩ ⟨0⟩ none,
        .resolveTop]
      g.losses ⟨0⟩ = 2 ∧ (g.player ⟨0⟩).lost = true ∧ (g.player ⟨0⟩).deck.cards = [] ∧
        LosingTold [⟨[.insight], .pass⟩, ⟨[], .pass⟩] g ⟨0⟩ := by
  refine ⟨_, rfl, by decide +kernel, by decide +kernel, by decide +kernel, ?_⟩
  have created : Game.create {} [⟨[.insight], .pass⟩, ⟨[], .pass⟩] = .ok _ := rfl
  exact losingTold created (.performAll .start _ (by simp [Operation.plays])) ⟨0⟩

end CardGame
