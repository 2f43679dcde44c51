import CardGame.Proofs.Printed
import CardGame.Proofs.RoundTrip

/-!
Losing at zero life. Life is taken in one place, which looks at what is left once it has told of the
loss, and no emission is under way then that could have the news of losing dropped. Life is given by
effects only, never a negative amount when the cards are read from text; and sums stop at the ends
of the range, so nobody gets below zero by gaining. Whoever has lost stays out of the game.
-/

namespace CardGame

namespace Amount

theorem le_plus {a n : Amount} (positive : 0 ≤ n) : a ≤ plus a n := by
  have added : (0 : Int) ≤ n.toInt := Int64.le_iff_toInt_le.1 positive
  have low := a.minValue_le_toInt
  rw [Int64.le_iff_toInt_le]
  by_cases high : a.toInt + n.toInt ≤ Int64.maxValue.toInt
  · rw [plus, toInt_clamp (by omega) high]
    omega
  · rw [plus, clamp, Int64.ofIntClamp, dif_pos (by omega), dif_neg high]
    exact a.toInt_le

end Amount

theorem Quantity.Printable.value_nonnegative {q : Quantity} (printable : q.Printable) {x : Amount}
    (positive : 0 ≤ x) : 0 ≤ q.value x := by
  cases q with
  | number n => exact Int64.le_iff_toInt_le.2 printable
  | one => exact (by decide : (0 : Amount) ≤ 1)
  | x => exact positive

def SingleEffect.Heals : SingleEffect → Prop
  | .player (.gainLife amount) => amount.Printable
  | _ => True

theorem allowsRules_heals : AllowsRules SingleEffect.Heals :=
  ⟨trivial, fun _ => trivial⟩

def SingleEffect.Printable : SingleEffect → Prop
  | .player e => e.Printable
  | .card e => e.Printable

theorem Card.Printable.only {c : Card} (printable : c.Printable) :
    c.Only SingleEffect.Printable := by
  have single : ∀ clause : Effect, clause.Printable → ∀ e ∈ clause.singles, e.Printable := by
    intro clause own e mem
    cases clause with
    | player who optional effects =>
      obtain ⟨effect, listed, rfl⟩ := List.mem_map.1 mem
      exact own.2.2.2 effect listed
    | card subject effects =>
      obtain ⟨effect, listed, rfl⟩ := List.mem_map.1 mem
      exact own.2.2 effect listed
  have clauses : ∀ a : Ability, a.Printable → ∀ clause ∈ a.clauses, clause.Printable := by
    intro a own clause mem
    cases a with
    | keyword k => exact nomatch mem
    | composed b => exact own.2 clause mem
    | activated b =>
      rcases List.mem_append.1 mem with cost | bought
      · obtain ⟨c, listed, same⟩ := List.mem_filterMap.1 cost
        cases c with
        | symbol s => exact nomatch same
        | effect e => exact Option.some.inj same ▸ own.2.1 _ listed
      · exact own.2.2.2 clause bought
    | triggered b => exact own.2.2 clause mem
  intro e mem
  obtain ⟨a, listed, mem⟩ := List.mem_flatMap.1 mem
  obtain ⟨clause, inAbility, mem⟩ := List.mem_flatMap.1 mem
  exact single clause (clauses a (printable.abilities a listed) clause inAbility) e mem

theorem Card.only_heals {c : Card} (printable : c.Printable) : c.Only SingleEffect.Heals := by
  intro e mem
  have own := printable.only e mem
  cases e with
  | player effect =>
    cases effect with
    | gainLife amount => exact own
    | _ => trivial
  | card effect => trivial

/-- Whoever has no life has lost, one player apart who may be about to; and the news of that can be
told. -/
structure Living (spared : Option PlayerId) (g : Game) : Prop where
  depth : g.eventDepth = 0
  room : 0 < g.config.maxEventDepth.toNat
  start : 0 < g.config.startLife
  lost : ∀ p, spared ≠ some p → (g.player p).life ≤ 0 → (g.player p).lost

namespace Living

variable {spared : Option PlayerId} {g h : Game} {p : PlayerId}

theorem of_lives (living : Living spared g) (depth : h.eventDepth = g.eventDepth)
    (config : h.config = g.config)
    (lives : ∀ q, (h.player q).life = (g.player q).life ∧ ((g.player q).lost → (h.player q).lost)) :
    Living spared h where
  depth := depth.trans living.depth
  room := config ▸ living.room
  start := config ▸ living.start
  lost q settled none := (lives q).2 (living.lost q settled ((lives q).1 ▸ none))

theorem of_players (living : Living spared g) (depth : h.eventDepth = g.eventDepth)
    (config : h.config = g.config) (players : h.players = g.players) : Living spared h := by
  refine living.of_lives depth config fun q => ?_
  rw [Game.player, Game.player, players]
  exact ⟨rfl, id⟩

theorem blind (spared : Option PlayerId) : BlindToTalk (Living spared) :=
  fun _ _ _ living => living.of_players rfl rfl rfl

theorem modifyPlayer (living : Living spared g) {f : Player → Player}
    (same : ∀ s, (f s).life = s.life ∧ (f s).lost = s.lost) (p : PlayerId) :
    Living spared (g.modifyPlayer p f) := by
  refine living.of_lives rfl rfl fun q => ?_
  obtain unchanged | ⟨-, changed⟩ := g.player_modifyPlayer p q f
  · rw [unchanged]
    exact ⟨rfl, id⟩
  · rw [changed, (same _).1, (same _).2]
    exact ⟨rfl, id⟩

theorem shelve (living : Living spared g) {f : Player → Player} (shelves : Shelves f)
    (p : PlayerId) :
    Living spared (g.modifyPlayer p f) :=
  living.modifyPlayer (fun s => by rw [shelves s]; exact ⟨rfl, rfl⟩) p

theorem store (living : Living spared g) {f : Player → Player} (stores : Stores f) (p : PlayerId) :
    Living spared (g.modifyPlayer p f) :=
  living.modifyPlayer (fun s => by rw [stores.frame s]; exact ⟨rfl, rfl⟩) p

theorem frame (living : Living spared g) (kind : EventKind) (subject : ObjectRef) :
    EmissionFrame kind subject g (StateT.run (Step.emit kind subject) g).2 :=
  Step.emit_leaves kind subject (living.depth ▸ living.room)

theorem emit (kind : EventKind) (subject : ObjectRef) :
    Step.Keeps (Living spared) (Step.emit kind subject) := by
  intro g living
  have frame := living.frame kind subject
  refine living.of_lives frame.eventDepth frame.config fun q => ?_
  rw [frame.player q]
  exact ⟨rfl, fun lost => Bool.or_eq_true_iff.2 (.inl lost)⟩

theorem emit_lose (living : Living (some p) g) :
    Living none (StateT.run (Step.emit .lose (.player p)) g).2 := by
  have told := emit .lose (.player p) g living
  refine ⟨told.depth, told.room, told.start, fun q _ none => ?_⟩
  by_cases same : p = q
  · subst same
    rw [(living.frame .lose (.player p)).player p]
    simp
  · exact told.lost q (fun spared => same (Option.some.inj spared)) none

theorem loseLife (p : PlayerId) (n : Amount) : Step.Keeps (Living none) (Step.loseLife p n) := by
  have taken : Step.Ends (Living none)
      (modify (·.modifyPlayer p fun s => { s with life := Amount.minus s.life n }) : Step Unit)
      fun _ => Living (some p) := by
    refine fun g living => ⟨living.depth, living.room, living.start, fun q other none => ?_⟩
    have apart : p ≠ q := fun same => other (congrArg some same)
    change ((g.modifyPlayer p _).player q).lost
    rw [Game.player_modifyPlayer_of_ne g apart]
    refine living.lost q nofun ?_
    rw [← Game.player_modifyPlayer_of_ne g apart]
    exact none
  have read : Step.Ends (Living (some p)) get fun known g => known = g ∧ Living (some p) g :=
    Step.ends_get fun _ living => ⟨rfl, living⟩
  change Step.Ends (Living none) (Step.loseLife p n) fun _ => Living none
  refine taken.bind fun _ => (emit .loseLife (.player p)).ends.bind fun _ =>
    read.bind fun known g => ?_
  rintro ⟨rfl, living⟩
  dsimp only
  split
  · exact living.emit_lose
  · next alive =>
    change Living none known
    refine ⟨living.depth, living.room, living.start, fun q _ none => ?_⟩
    by_cases same : p = q
    · subst same
      by_contra playing
      exact alive ⟨none, by simpa using playing⟩
    · exact living.lost q (fun spared => same (Option.some.inj spared)) none

theorem gainLife (p : PlayerId) {n : Amount} (positive : 0 ≤ n) :
    Step.Keeps (Living none) (Step.gainLife p n) := by
  refine Step.keeps_gainLife_of (fun g living => ?_) (emit _ _)
  refine ⟨living.depth, living.room, living.start, fun q _ none => ?_⟩
  obtain unchanged | ⟨-, changed⟩ := g.player_modifyPlayer p q fun s =>
    { s with life := Amount.plus s.life n }
  · rw [unchanged] at none ⊢
    exact living.lost q nofun none
  · rw [changed] at none ⊢
    exact living.lost q nofun (Int64.le_trans (Amount.le_plus positive) none)

theorem moveCard (c : CardId) (goal : Zone) (position : Position) :
    Act.Keeps (Living none) (Act.moveCard c goal position) :=
  Act.keeps_moveCard_of (fun _ => emit _ _) (fun shelves _ p living => living.shelve shelves p)
    (fun _ _ living => living.of_players rfl rfl rfl) position

theorem keptByEffects : KeptByEffects (fun x e => 0 ≤ x ∧ e.Heals) (Living none) where
  saying := (blind none).saying
  announce kind subject _ := emit kind subject
  exhausted g _ start _ := emit _ _ g start
  send _ := moveCard _ _ _
  spawn _ _ := Act.keeps_createCard_of (fun _ living => living.of_players rfl rfl rfl)
    fun c => moveCard c _ _
  damage _ _ _ living _ := living.of_players rfl rfl rfl
  bonus _ _ _ living := living.of_players rfl rfl rfl
  activate _ _ _ living := living.of_players rfl rfl rfl
  deactivate _ _ living := living.of_players rfl rfl rfl
  store stores _ p living := living.store stores p
  harm := loseLife
  heal allowed p := gainLife p (Quantity.Printable.value_nonnegative allowed.2 allowed.1)
  shuffle p z := Step.keeps_shuffleZone_of p z (fun shelves _ p living => living.shelve shelves p)
    fun _ _ living => living.of_players rfl rfl rfl
  random _ _ living := living.of_players rfl rfl rfl
  resolving _ _ living := living.of_players rfl rfl rfl

theorem startLife (living : Living none g) :
    Living none
      { g with players := g.players.map fun s => { s with life := g.config.startLife } } := by
  refine ⟨living.depth, living.room, living.start, fun q _ none => ?_⟩
  simp only [Game.player, Seats.map, Seats.get?_mapWithSeat] at none ⊢
  cases found : g.players.get? q with
  | none => rfl
  | some s =>
    rw [found] at none
    exact absurd none (Int64.not_le.2 living.start)

theorem keptByPrints : KeptByPrints SingleEffect.Heals (Living none) :=
  .of_stackless keptByEffects (fun talks => talks.keep (blind none))
    (fun _ _ _ living => living.of_players rfl rfl rfl)
    (fun c => moveCard c .stack) (fun _ _ _ living => living.of_players rfl rfl rfl)
    (fun _ _ living => living.of_players rfl rfl rfl) fun _ => startLife

theorem create {config : RulesConfig} {entrants : List Entrant}
    (created : Game.create config entrants = .ok g) (room : 0 < config.maxEventDepth.toNat)
    (life : 0 < config.startLife) : Living none g := by
  refine Game.create_induction created (fun seats => ⟨rfl, room, life, fun q _ none => ?_⟩)
    fun g owner template _ _ living => ?_
  · simp only [Game.player, Game.bare, Seats.map, Seats.get?_mapWithSeat] at none ⊢
    cases found : seats.get? q with
    | none => rfl
    | some s =>
      rw [found] at none
      exact absurd none (Int64.not_le.2 life)
  · have added : Living none (StateT.run (Step.addCard owner template .deck) g).2 :=
      living.of_players rfl rfl rfl
    exact added.shelve (fun _ => rfl) owner

end Living

def Operation.playsOrHurts : Operation → Bool
  | .loseLife _ _ => true
  | op => op.plays

theorem Living.reachedFrom {start g : Game}
    (begins : Prints SingleEffect.Heals start ∧ Living none start)
    (course : ReachedFrom start (fun op => op.playsOrHurts) g) :
    Prints SingleEffect.Heals g ∧ Living none g := by
  have k := Living.keptByPrints
  induction course with
  | start => exact begins
  | @perform g op before may ih =>
    cases op with
    | loseLife p n => exact k.effects.harm p n g ih
    | _ => exact (k.course allowsRules_heals).perform _ may ih

theorem Player.lasts_lost : Lasts fun s => s.lost where
  account accounts s lost := by
    rw [accounts.frame s]
    exact lost
  shelve shelves s lost := by
    rw [shelves s]
    exact lost
  lose _ _ lost := Bool.or_eq_true_iff.2 (.inl lost)

/-- Losing in a game: who has no life has lost, and who has lost stays so whatever is done. -/
structure LosesForGood (g : Game) : Prop where
  lost : ∀ p, (g.player p).life ≤ 0 → (g.player p).lost
  stays : ∀ later, ReachedFrom g (fun _ => True) later → ∀ p, (g.player p).lost →
    (later.player p).lost

/-- In the course of a game of cards that were read from text nobody survives without life, also
when life is taken from outside, as long as everyone starts with some and emissions may be nested at
all. -/
theorem losesForGood {config : RulesConfig} {entrants : List Entrant} {start g : Game}
    (life : 1 ≤ config.startLife) (room : 1 ≤ config.maxEventDepth)
    (created : Game.create config entrants = .ok start)
    (parsed : ∀ e ∈ entrants, ∀ card ∈ e.deck, ∃ text, Grammar.parse text = .ok card)
    (course : ReachedFrom start (fun op => op.playsOrHurts) g) : LosesForGood g := by
  have heals : ∀ e ∈ entrants, ∀ card ∈ e.deck, card.Only SingleEffect.Heals := by
    intro e seat card listed
    obtain ⟨text, read⟩ := parsed e seat card listed
    exact Card.only_heals (.of_parse read)
  have positive : 0 < config.startLife := Int64.lt_of_lt_of_le (by decide) life
  have living :=
    (Living.reachedFrom ⟨Prints.create created heals, Living.create created room positive⟩ course).2
  exact ⟨fun p => living.lost p nofun,
    fun later after p lost => (Player.lasts_lost.keptByPlay p).reachedFrom lost after⟩

def Card.drain : Card :=
  ((blank "Drain").withKind ⟨.spell, false⟩).withAbility (.composed
    ⟨[.player (some [.opponent]) false [.loseLife (.number 20)]]⟩)

theorem losesForGood_drain :
    ∃ start, Game.create {} [⟨[.drain], .pass⟩, ⟨[], .pass⟩] = .ok start ∧
      Grammar.parse "Drain\nSpell\nYour opponent loses 20 life." = .ok .drain ∧
      let g := Operation.performAll start
        [.enterPhase .draw, .enterPhase .play, .cast ⟨0⟩ ⟨0⟩ none, .resolveTop, .loseLife ⟨0⟩ 25]
      (g.player ⟨0⟩).life = -5 ∧ (g.player ⟨1⟩).life = 0 ∧ LosesForGood g := by
  have read : Grammar.parse "Drain\nSpell\nYour opponent loses 20 life." = .ok .drain := by
    decide +kernel
  refine ⟨_, rfl, read, by decide +kernel, by decide +kernel, ?_⟩
  have life : 1 ≤ ({} : RulesConfig).startLife := by decide
  have room : 1 ≤ ({} : RulesConfig).maxEventDepth := by decide
  have created : Game.create {} [⟨[.drain], .pass⟩, ⟨[], .pass⟩] = .ok _ := rfl
  refine losesForGood life room created (fun e seat card listed => ?_)
    (.performAll .start _ (by decide))
  rcases List.mem_cons.1 seat with rfl | other
  · obtain rfl := List.mem_singleton.1 listed
    exact ⟨_, read⟩
  · obtain rfl := List.mem_singleton.1 other
    exact nomatch listed

end CardGame
