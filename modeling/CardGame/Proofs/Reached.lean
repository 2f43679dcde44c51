import CardGame.Game.Setup
import CardGame.Proofs.Effects

/-!
Games that can come about: a game as it is created, and every game to which an operation leads from
one that can come about, whether the operation succeeds or not. What a new game has and every
operation keeps holds in all of them.
-/

namespace CardGame

namespace Game

def bare (config : RulesConfig) (seats : Seats Entrant) : Game where
  config := config
  players := seats.map fun _ => Player.initial config
  choosers := seats.map fun e => Chooser.ofStrategy e.strategy
  cards := #[]
  stack := .initial seats.count
  turn := .initial
  resolving := none
  observers := .empty
  random := .ofSeed config.seed
  eventDepth := 0
  nextUse := 0
  chronicle := #[]

theorem players_layOut (g : Game) (owner : PlayerId) (template : Card) :
    (g.layOut owner template).players.count = g.players.count :=
  Seats.count_modify _ _ _

theorem create_induction {P : Game → Prop} {config : RulesConfig} {entrants : List Entrant}
    {g : Game} (created : create config entrants = .ok g) (bare : ∀ seats, P (bare config seats))
    (laidOut : ∀ g owner template, owner.seat < g.players.count →
      (∃ e ∈ entrants, template ∈ e.deck) → P g → P (g.layOut owner template)) : P g := by
  have deck : ∀ (owner : PlayerId) (cards : List Card) (g : Game), owner.seat < g.players.count →
      (∀ card ∈ cards, ∃ e ∈ entrants, card ∈ e.deck) → P g →
      P (cards.foldl (fun g c => g.layOut owner c) g) ∧
        (cards.foldl (fun g c => g.layOut owner c) g).players.count = g.players.count := by
    intro owner cards
    induction cards with
    | nil => exact fun g _ _ start => ⟨start, rfl⟩
    | cons card rest ih =>
      intro g seated listed start
      have seats := g.players_layOut owner card
      have first := laidOut g owner card seated (listed card (.head _)) start
      have later := ih _ (seats.symm ▸ seated) (fun card mem => listed card (.tail _ mem)) first
      exact ⟨later.1, later.2.trans seats⟩
  have decks : ∀ (seats : List (PlayerId × Entrant)) (g : Game),
      (∀ s ∈ seats, s.1.seat < g.players.count ∧ s.2 ∈ entrants) → P g →
      P (seats.foldl (fun g s => s.2.deck.foldl (fun g c => g.layOut s.1 c) g) g) := by
    intro seats
    induction seats with
    | nil => exact fun g _ start => start
    | cons s rest ih =>
      intro g known start
      obtain ⟨seated, entered⟩ := known s (.head _)
      have first := deck s.1 s.2.deck g seated (fun card mem => ⟨s.2, entered, mem⟩) start
      exact ih _ (fun t mem => first.2.symm ▸ known t (.tail _ mem)) first.1
  unfold create at created
  split at created
  · cases created
  · next seats made =>
    obtain rfl := Except.ok.inj created
    refine decks _ _ (fun s mem => ⟨?_, Seats.mem_of_mem_toList made mem⟩) (bare seats)
    exact Nat.lt_of_lt_of_eq (Seats.seat_lt_of_mem_toList mem) (Seats.count_mapWithSeat _ _).symm

end Game

inductive Operation where
  | shuffleDecks
  | observe (kind : EventKind)
  | stopObserving (h : HandlerId)
  | moveCard (c : CardId) (goal : Zone) (position : Position)
  | createCard (owner : PlayerId) (template : Card) (z : Zone)
  | draw (p : PlayerId) (count : Amount)
  | destroy (c : CardId)
  | dealDamage (c : CardId) (n : Amount)
  | loseLife (p : PlayerId) (n : Amount)
  | gainLife (p : PlayerId) (n : Amount)
  | shuffleZone (p : PlayerId) (z : Zone)
  | pick (u : AbilityUse) (m : Match) (zones : Option ZoneMatch)
  | cast (p : PlayerId) (c : CardId) (field : Option Nat)
  | activate (p : PlayerId) (c : CardId) (index : Nat)
  | playSource (p : PlayerId) (c : CardId)
  | takeAction (p : PlayerId)
  | resolveUse (u : AbilityUse)
  | resolveTop
  | enterPhase (phase : Phase)
  | runPhase (bound : Nat)
  | runTurn (bound : Nat) (p : PlayerId)
  | run (bound : Nat)

def Step.leave {α : Type} (m : Step α) (g : Game) : Game :=
  (StateT.run m g).2

namespace Operation

def perform (g : Game) : Operation → Game
  | shuffleDecks => g.shuffleDecks
  | observe kind => (g.observe kind).2
  | stopObserving h => (g.stopObserving h).2
  | moveCard c goal position => Step.leave (Act.outcome (Act.moveCard c goal position)) g
  | createCard owner template z => Step.leave (Act.outcome (Act.createCard owner template z)) g
  | draw p count => Step.leave (Act.outcome (Act.draw p count)) g
  | destroy c => Step.leave (Act.outcome (Act.destroy c)) g
  | dealDamage c n => Step.leave (Act.outcome (Act.dealDamage c n)) g
  | loseLife p n => Step.leave (Step.loseLife p n) g
  | gainLife p n => Step.leave (Step.gainLife p n) g
  | shuffleZone p z => Step.leave (Step.shuffleZone p z) g
  | pick u m zones => Step.leave (Step.pick Step.emit u m zones) g
  | cast p c field => Step.leave (Act.outcome (Act.cast p c field)) g
  | activate p c index => Step.leave (Act.outcome (Act.activate p c index)) g
  | playSource p c => Step.leave (Act.outcome (Act.playSource p c)) g
  | takeAction p => Step.leave (Step.takeAction p) g
  | resolveUse u => Step.leave (Act.outcome (Act.resolveUse u)) g
  | resolveTop => Step.leave (Act.outcome Act.resolveTop) g
  | enterPhase phase => Step.leave (Act.outcome (Act.enterPhase phase)) g
  | runPhase bound => Step.leave (Step.runPhase bound) g
  | runTurn bound p => Step.leave (Step.runTurn bound p) g
  | run bound => Step.leave (Step.run bound) g

/-- Whether an operation may take uses off the stack. -/
def resolves : Operation → Bool
  | resolveTop => true
  | runPhase _ => true
  | runTurn _ _ => true
  | run _ => true
  | _ => false

/-- Whether an operation is a step in the course of a game: an action of a player, a change of
phase, or the resolving and running of what follows. -/
def plays : Operation → Bool
  | cast _ _ _ => true
  | activate _ _ _ => true
  | playSource _ _ => true
  | takeAction _ => true
  | resolveTop => true
  | enterPhase _ => true
  | runPhase _ => true
  | runTurn _ _ => true
  | run _ => true
  | _ => false

def performAll (g : Game) (ops : List Operation) : Game :=
  ops.foldl perform g

end Operation

/-- The games to which operations of some sort lead from a game. -/
inductive ReachedFrom (start : Game) (allowed : Operation → Prop) : Game → Prop where
  | start : ReachedFrom start allowed start
  | perform {g : Game} {op : Operation} (before : ReachedFrom start allowed g) (may : allowed op) :
      ReachedFrom start allowed (op.perform g)

/-- The games to which any operations lead from a new one. -/
def Reached (g : Game) : Prop :=
  ∃ config entrants start, Game.create config entrants = .ok start ∧
    ReachedFrom start (fun _ => True) g

theorem ReachedFrom.performAll {start g : Game} {allowed : Operation → Prop}
    (before : ReachedFrom start allowed g) (ops : List Operation) (may : ∀ op ∈ ops, allowed op) :
    ReachedFrom start allowed (Operation.performAll g ops) := by
  induction ops generalizing g with
  | nil => exact before
  | cons op rest ih =>
    exact ih (before.perform (may op (.head _))) fun later mem => may later (.tail _ mem)

theorem reached_performAll (config : RulesConfig) (entrants : List Entrant) {start : Game}
    (created : Game.create config entrants = .ok start) (ops : List Operation) :
    Reached (Operation.performAll start ops) :=
  ⟨config, entrants, start, created, .performAll .start ops fun _ _ => trivial⟩

namespace Act

variable {P : Game → Prop}

theorem keeps_inHand (p : PlayerId) (c : CardId) : Keeps P (inHand p c) :=
  (keeps_card c).bind fun _ => (keeps_require _ _).bind fun _ => keeps_pure _

theorem keeps_checkPriority (p : PlayerId) : Keeps P (checkPriority p) :=
  keeps_getThe.bind fun _ => keeps_require _ _

theorem keeps_fieldFor (p : PlayerId) (c : CardId) (field : Option Nat) :
    Keeps P (fieldFor p c field) := by
  refine keeps_getThe.bind fun g => ?_
  dsimp only
  split
  · exact (keeps_require _ _).bind fun _ => keeps_pure _
  · split
    · exact keeps_pure _
    · exact keeps_throw _

end Act

theorem KeptByEffects.keeps_playUse {may : Amount → SingleEffect → Prop} {P : Game → Prop}
    (k : KeptByEffects may P) (pushed : ∀ g u, P g → P (g.modifyStack (·.push u)))
    (u : AbilityUse) :
    Step.Keeps P (Step.playUse Step.emit u) :=
  (k.keeps_pickUse u).bind fun u => Step.keeps_modify fun g h => pushed g u h

theorem KeptByEffects.keeps_affordableX {may : Amount → SingleEffect → Prop} {P : Game → Prop}
    (k : KeptByEffects may P) (p : PlayerId) (c : CardId) (costs : List CostSymbol)
    (affordable : Game → Amount → Bool) : Act.Keeps P (Act.affordableX p c costs affordable) :=
  Act.keeps_getThe.bind fun _ => (Act.keeps_require _ _).bind fun _ =>
    (Act.keeps_lift (k.keeps_chooseX p costs)).bind fun _ => Act.keeps_getThe.bind fun _ =>
      (Act.keeps_require _ _).bind fun _ => Act.keeps_pure _

namespace KeptByWrites

open Act

variable {P : Game → Prop} (k : KeptByWrites P)
include k

theorem keeps_cast (played : ∀ p c i field x, Keeps P (castFor p c i field x)) (p : PlayerId)
    (c : CardId) (field : Option Nat) : Keeps P (cast p c field) := by
  refine (keeps_inHand p c).bind fun i => (keeps_checkPriority p).bind fun _ => ?_
  refine keeps_getThe.bind fun _ => (keeps_require _ _).bind fun _ => ?_
  dsimp only
  split
  · exact ((keeps_fieldFor p c field).map _).bind fun _ =>
      (k.keeps_affordableX p c _ _).bind fun _ => played _ _ _ _ _
  · exact (keeps_pure _).bind fun _ => (k.keeps_affordableX p c _ _).bind fun _ => played _ _ _ _ _

theorem keeps_activate (used : ∀ p c a x, Keeps P (activateFor p c a x)) (p : PlayerId)
    (c : CardId) (index : Nat) : Keeps P (activate p c index) := by
  refine (keeps_card c).bind fun i => (keeps_require _ _).bind fun _ => ?_
  split
  · exact keeps_throw _
  · exact (keeps_checkPriority p).bind fun _ => keeps_getThe.bind fun _ =>
      (keeps_require _ _).bind fun _ => (k.keeps_affordableX p c _ _).bind fun _ => used _ _ _ _

end KeptByWrites

theorem Step.keeps_chooseAsSource_of_asking {P : Game → Prop} {p : PlayerId} (k : KeptByAsking p P)
    (c : CardId) : Keeps P (chooseAsSource p c) := by
  refine keeps_get.bind fun g => ?_
  split
  · exact (keeps_chooseOne_of_asking k _).bind fun _ => keeps_pure _
  · exact keeps_pure _

namespace KeptByEffects

open Act

variable {may : Amount → SingleEffect → Prop} {P : Game → Prop} (k : KeptByEffects may P)
  (turned : ∀ {f}, Turns f → ∀ g c, P g → P (g.modifyCard c f)) (turn : ∀ g t, P g →
    P { g with turn := t })
include k turned turn

theorem keeps_playSource (priority : ∀ {f : PriorityStack → PriorityStack},
    (∀ s, (f s).entries = s.entries) → ∀ g, P g → P (g.modifyStack f)) (p : PlayerId) (c : CardId) :
    Keeps P (playSource p c) :=
  (keeps_inHand p c).bind fun _ => (keeps_checkPriority p).bind fun _ => keeps_getThe.bind fun _ =>
    (keeps_require _ _).bind fun _ => (keeps_require _ _).bind fun _ =>
      (keeps_require _ _).bind fun _ =>
    (keeps_changeCard fun g start => turned (fun _ => rfl) g c start).bind fun _ =>
    (k.keeps_send rfl).bind fun _ => (keeps_modifyThe fun g start => turn g _ start).bind fun _ =>
    (keeps_modifyThe fun g start => priority (f := .acted) (fun _ => rfl) g start).bind fun _ =>
    k.keeps_announce _ _ rfl

theorem keeps_beginTurn (p : PlayerId) : Keeps P (beginTurn p) :=
  (k.keeps_store .noEssence p).bind fun _ => keeps_getThe.bind fun _ =>
    (Keeps.forM (fun c => keeps_changeCard fun g start => turned (fun _ => rfl) g c start) _).bind
      fun _ =>
    keeps_modifyThe fun g start => turn g _ start

end KeptByEffects

/-- Actions of players lead from one property to another, and when they fail they keep the first. -/
structure LeadsByActing (before after : Game → Prop) : Prop where
  saying : KeptByTalk before
  cast : ∀ p c field, Act.Leads before (Act.cast p c field) (fun _ => after) before
  activate : ∀ p c index, Act.Leads before (Act.activate p c index) (fun _ => after) before
  playSource : ∀ p c, Act.Leads before (Act.playSource p c) (fun _ => after) before

namespace LeadsByActing

open Step

variable {before after : Game → Prop} (led : LeadsByActing before after) {p : PlayerId}

/-- How an attempt to act leaves a game: as an action does, or as it was before. -/
def Attempted (before after : Game → Prop) (result : Option (Except EngineError Unit))
    (h : Game) : Prop :=
  match result with
  | some (.ok ()) => after h
  | _ => before h

omit led in
theorem ends_attempt {act : Act Unit} (leads : Act.Leads before act (fun _ => after) before) :
    Ends before (do return some (← Act.outcome act)) (Attempted before after) :=
  leads.outcome.bind fun result => by
    cases result <;> exact ends_pure fun _ left => left

include led

theorem ends_actOnBoard (c : CardId) (i : CardInstance) :
    Ends before (actOnBoard p c i) (Attempted before after) := by
  refine (keeps_get.ends).bind fun _ => ?_
  refine (keeps_chooseOne_of_asking (led.saying.asking p) _).ends.bind fun chosen => ?_
  split
  · exact ends_pure fun _ start => start
  · exact ends_attempt (led.activate p c _)

theorem ends_castFromHand (c : CardId) (i : CardInstance) :
    Ends before (castFromHand p c i) (Attempted before after) := by
  unfold castFromHand
  split
  · refine (keeps_get.ends).bind fun _ => ?_
    refine (keeps_chooseOne_of_asking (led.saying.asking p) _).ends.bind fun chosen => ?_
    split
    · exact ends_pure fun _ start => start
    · exact ends_attempt (led.cast p c _)
  · exact ends_attempt (led.cast p c _)

theorem ends_actFromHand (c : CardId) (i : CardInstance) :
    Ends before (actFromHand p c i) (Attempted before after) := by
  refine (keeps_chooseAsSource_of_asking (led.saying.asking p) c).ends.bind fun choice => ?_
  split
  · exact ends_pure fun _ start => start
  · exact ends_attempt (led.playSource p c)
  · exact led.ends_castFromHand c i

theorem ends_takeAction {start idle : Game → Prop}
    (asked : ∀ options, Ends start (chooseOne p (.card options))
      fun chosen h => idle h ∧ (chosen.isSome → before h))
    (rests : ∀ h, before h → idle h) :
    Ends start (takeAction p) fun acted h => if acted then after h else idle h := by
  refine (keeps_get.ends).bind fun g => (asked _).bind fun chosen => ?_
  cases chosen with
  | none => exact ends_pure fun _ left => left.1
  | some k =>
    refine Ends.weaken (P := before) ?_ (fun _ left => left.2 rfl) fun _ _ left => left
    split
    · exact ends_pure rests
    · refine (keeps_get.ends).bind fun _ => ?_
      split
      · exact ends_pure rests
      · have told : ∀ result, Ends (Attempted before after result)
            (match result with | some (.ok ()) => return true | _ => return false)
            fun acted h => if acted then after h else idle h := by
          intro result
          split
          · exact ends_pure fun _ left => left
          · next failed =>
            refine ends_pure fun h left => rests h ?_
            unfold Attempted at left
            split at left
            · exact absurd rfl failed
            · exact left
        dsimp only
        split
        · exact (led.ends_actOnBoard _ _).bind told
        · exact (led.ends_actFromHand _ _).bind told

end LeadsByActing

structure KeptByMoves (P : Game → Prop) : Prop where
  saying : KeptByTalk P
  announce : ∀ kind subject, kind.isPlain → Step.Keeps P (Step.emit kind subject)
  cast : ∀ p c field, Act.Keeps P (Act.cast p c field)
  activate : ∀ p c index, Act.Keeps P (Act.activate p c index)
  playSource : ∀ p c, Act.Keeps P (Act.playSource p c)
  draw : ∀ p count, Act.Keeps P (Act.draw p count)
  beginTurn : ∀ p, Act.Keeps P (Act.beginTurn p)
  priority : ∀ {f : PriorityStack → PriorityStack}, (∀ s, (f s).entries = s.entries) →
    ∀ g, P g → P (g.modifyStack f)
  turn : ∀ g t, P g → P { g with turn := t }

structure KeptByCourse (P : Game → Prop) : Prop extends KeptByMoves P where
  resolveTop : Act.Keeps P Act.resolveTop
  store : ∀ {f}, Stores f → ∀ g p, P g → P (g.modifyPlayer p f)
  startLife : ∀ g, P g →
    P { g with players := g.players.map fun s => { s with life := g.config.startLife } }
  random : ∀ g r, P g → P { g with random := r }

structure KeptByActions (P : Game → Prop) : Prop extends KeptByWrites P where
  castFor : ∀ p c i field x, Act.Keeps P (Act.castFor p c i field x)
  activateFor : ∀ p c a x, Act.Keeps P (Act.activateFor p c a x)
  priority : ∀ {f : PriorityStack → PriorityStack}, (∀ s, (f s).entries = s.entries) →
    ∀ g, P g → P (g.modifyStack f)
  turn : ∀ g t, P g → P { g with turn := t }
  observers : ∀ g b, P g → P { g with observers := b }
  accounts : ∀ {f}, Accounts f → ∀ g, P g → P { g with players := g.players.map f }
  shuffleDecks : ∀ g, P g → P g.shuffleDecks

structure KeptByPlay (P : Game → Prop) : Prop extends KeptByActions P where
  popped : ∀ g, P g → P (g.modifyStack (·.pop.2))

namespace KeptByActions

open Act

variable {P : Game → Prop} (k : KeptByActions P)
include k

theorem moves : KeptByMoves P where
  saying := k.saying
  announce := k.announce
  cast := k.keeps_cast k.castFor
  activate := k.keeps_activate k.activateFor
  playSource := k.toKeptByEffects.keeps_playSource k.turned k.turn k.priority
  draw := k.keeps_draw
  beginTurn := k.toKeptByEffects.keeps_beginTurn k.turned k.turn
  priority := k.priority
  turn := k.turn

end KeptByActions

namespace KeptByMoves

open Act

variable {P : Game → Prop} (k : KeptByMoves P)
include k

theorem keeps_enterPhase (phase : Phase) : Keeps P (enterPhase phase) := by
  have announced : ∀ kind subject, kind.isPlain →
      Keeps P (liftM (Step.emit kind subject) : Act Unit) :=
    fun kind subject plain => keeps_lift (k.announce kind subject plain)
  refine keeps_getThe.bind fun g => (keeps_modifyThe fun h start =>
    k.turn h _ start).bind fun _ => ?_
  refine (keeps_modifyThe fun h start =>
    k.priority (f := (·.resetPriority _)) (fun _ => rfl) h start).bind
    fun _ => ?_
  cases phase with
  | start => exact (k.beginTurn _).bind fun _ => announced _ _ rfl
  | draw => exact (k.draw _ _).bind fun _ => announced _ _ rfl
  | play => exact announced _ _ rfl
  | finish => exact announced _ _ rfl

theorem keeps_takeAction (p : PlayerId) : Step.Keeps P (Step.takeAction p) := by
  have led : LeadsByActing P P := ⟨k.saying, fun p c field => (k.cast p c field).leads,
    fun p c index => (k.activate p c index).leads, fun p c => (k.playSource p c).leads⟩
  have asked : ∀ options, Step.Keeps P (Step.chooseOne p (.card options)) :=
    fun options => Step.keeps_chooseOne_of_asking (k.saying.asking p) _
  intro g start
  exact (ite_self (P _)).mp (led.ends_takeAction
    (fun options h start => ⟨asked options h start, fun _ => asked options h start⟩)
    (fun _ start => start) g start)

theorem keeps_actOrPass (actions : Nat) : Step.Keeps P (Step.actOrPass actions) := by
  refine Step.keeps_get.bind fun g => ?_
  dsimp only
  split
  · exact Step.keeps_pure _
  · split
    · exact k.keeps_takeAction _
    · exact (k.saying.notice _ rfl).bind fun _ => Step.keeps_pure _

end KeptByMoves

theorem KeptByActions.perform {P : Game → Prop} (k : KeptByActions P) {g : Game} (op : Operation)
    (quiet : op.resolves = false) (start : P g) :
    P (op.perform g) := by
  cases op with
  | shuffleDecks => exact k.shuffleDecks g start
  | observe kind => exact k.observers g _ start
  | stopObserving h => exact k.observers g _ start
  | moveCard c goal position => exact k.move c goal position g start
  | createCard owner template z => exact k.create owner template z g start
  | draw p count => exact k.keeps_draw p count g start
  | destroy c => exact k.keeps_destroy c g start
  | dealDamage c n => exact k.keeps_dealDamage c n g start
  | loseLife p n => exact k.harm p n g start
  | gainLife p n => exact k.keeps_gainLife p n g start
  | shuffleZone p z => exact k.shuffle p z g start
  | pick u m zones =>
    exact (Step.agree_pick k.saying.targeting (fun o => (k.announce _ o rfl).agree) u m
      zones).keeps g start
  | cast p c field => exact k.moves.cast p c field g start
  | activate p c index => exact k.moves.activate p c index g start
  | playSource p c => exact k.moves.playSource p c g start
  | takeAction p => exact k.moves.keeps_takeAction p g start
  | resolveUse u => exact k.keeps_resolveUse u g start
  | enterPhase phase => exact k.moves.keeps_enterPhase phase g start
  | resolveTop => exact nomatch quiet
  | runPhase bound => exact nomatch quiet
  | runTurn bound p => exact nomatch quiet
  | run bound => exact nomatch quiet

theorem Act.resolveTop_of_empty {g : Game} (empty : g.stack.entries.getLast? = none) :
    StateT.run (ExceptT.run resolveTop) g = (.ok false, g) := by
  have popped : g.stack.pop = (none, g.stack.pop.2) := by simp only [PriorityStack.pop, empty]
  simp only [resolveTop, ExceptT.run_bind, StateT.run_bind, run_getThe]
  change StateT.run (ExceptT.run _) g = _
  rw [popped]
  rfl

theorem Act.resolveTop_of_top {g : Game} {u : AbilityUse}
    (top : g.stack.entries.getLast? = some u) :
    StateT.run (ExceptT.run resolveTop) g =
      StateT.run (ExceptT.run do resolveUse u; return true) (g.modifyStack (·.pop.2)) := by
  have popped : g.stack.pop = (some u, g.stack.pop.2) := by simp only [PriorityStack.pop, top]
  simp only [resolveTop, ExceptT.run_bind, StateT.run_bind, run_getThe]
  change StateT.run (ExceptT.run _) g = _
  rw [popped]
  rfl

namespace KeptByCourse

open Act

variable {P : Game → Prop} (k : KeptByCourse P)
include k

theorem keeps_resolveRound : Step.Keeps P Step.resolveRound := by
  refine k.resolveTop.outcome.bind fun result => ?_
  have reset : Step.Keeps P
      (modify fun g => g.modifyStack (·.resetPriority g.turn.active) : Step Unit) :=
    Step.keeps_modify fun g h => k.priority (f := (·.resetPriority _)) (fun _ => rfl) g h
  cases result with
  | ok b => exact reset
  | error e => exact (k.saying.notice _ rfl).bind fun _ => reset

theorem keeps_passRound : Step.Keeps P Step.passRound := by
  intro g start
  have rest : Step.Keeps P (do
      if !g.stack.pass.1 then
        return false
      else
        let g ← get
        if g.stack.isEmpty || g.isOver then
          return true
        else
          Step.resolveRound
          return false : Step Bool) := by
    split
    · exact Step.keeps_pure _
    · refine Step.keeps_get.bind fun g => ?_
      split
      · exact Step.keeps_pure _
      · exact k.keeps_resolveRound.bind fun _ => Step.keeps_pure _
  exact rest _ (k.priority (f := (·.pass.2)) PriorityStack.entries_pass g start)

theorem keeps_runPhaseWithin (bound actions : Nat) :
    Step.Keeps P (Step.runPhaseWithin bound actions) := by
  induction bound generalizing actions with
  | zero => exact Step.keeps_pure none
  | succ bound ih =>
    refine (k.keeps_actOrPass actions).bind fun acted => ?_
    split
    · exact ih (actions + 1)
    · refine k.keeps_passRound.bind fun ended => ?_
      split
      · exact Step.keeps_pure _
      · exact ih 0

theorem keeps_runPhase (bound : Nat) : Step.Keeps P (Step.runPhase bound) :=
  k.keeps_runPhaseWithin bound 0

theorem keeps_playPhase (bound : Nat) (p : PlayerId) (phase : Phase) :
    Step.Keeps P (Step.playPhase bound p phase) := by
  refine (k.keeps_enterPhase phase).outcome.bind fun result => ?_
  cases result with
  | ok _ => exact k.keeps_runPhase bound
  | error e => exact (k.saying.notice _ rfl).bind fun _ => k.keeps_runPhase bound

theorem keeps_playPhases (bound : Nat) (p : PlayerId) (phases : List Phase) :
    Step.Keeps P (Step.playPhases bound p phases) := by
  induction phases with
  | nil => exact Step.keeps_pure _
  | cons phase rest ih =>
    refine (k.keeps_playPhase bound p phase).bind fun played => ?_
    cases played with
    | none => exact Step.keeps_pure _
    | some _ =>
      refine Step.keeps_get.bind fun g => ?_
      split
      · exact Step.keeps_pure _
      · exact ih

theorem keeps_runTurn (bound : Nat) (p : PlayerId) : Step.Keeps P (Step.runTurn bound p) :=
  (Step.keeps_modify fun g h => k.turn g _ h).bind fun _ => Step.keeps_get.bind fun _ =>
    (k.saying.notice _ rfl).bind fun _ => k.keeps_playPhases bound p _

theorem keeps_afterTurn (p : PlayerId) : Step.Keeps P (Step.afterTurn p) := by
  refine Step.keeps_get.bind fun g => ?_
  dsimp only
  split
  · exact (Step.keeps_modify fun g h => k.store (.ofTurns _) g p h).bind fun _ =>
      Step.keeps_pure _
  · exact Step.keeps_pure _

theorem keeps_runTurns (phaseBound bound : Nat) (p : PlayerId) :
    Step.Keeps P (Step.runTurns phaseBound bound p) := by
  induction bound generalizing p with
  | zero => exact Step.keeps_pure none
  | succ bound ih =>
    refine Step.keeps_get.bind fun g => ?_
    split
    · exact Step.keeps_pure _
    · split
      · exact (k.saying.notice _ rfl).bind fun _ => Step.keeps_pure _
      · refine (k.keeps_runTurn phaseBound p).bind fun played => ?_
        cases played with
        | none => exact Step.keeps_pure _
        | some _ => exact (k.keeps_afterTurn p).bind fun next => ih next

theorem keeps_chooseFirst : Step.Keeps P Step.chooseFirst := by
  refine Step.keeps_modifyGet fun g h => ?_
  split
  · exact k.random g _ h
  · exact h

theorem keeps_openingDraws : Step.Keeps P Step.openingDraws := by
  refine Step.keeps_get.bind fun g => Step.Keeps.forM (fun p => ?_) _
  refine (k.draw p _).outcome.bind fun result => ?_
  cases result with
  | ok _ => exact Step.keeps_pure _
  | error e => exact k.saying.notice _ rfl

theorem keeps_run (bound : Nat) : Step.Keeps P (Step.run bound) := by
  refine k.keeps_chooseFirst.bind fun first => ?_
  refine (Step.keeps_modify fun g h => k.turn g _ h).bind fun _ => ?_
  refine (Step.keeps_modify k.startLife).bind fun _ => ?_
  refine k.keeps_openingDraws.bind fun _ => Step.keeps_get.bind fun _ => ?_
  refine (k.saying.notice _ rfl).bind fun _ => ?_
  refine (k.keeps_runTurns bound bound first).bind fun played => ?_
  cases played with
  | none => exact Step.keeps_pure _
  | some _ =>
    refine Step.keeps_get.bind fun g => ?_
    exact (Step.Keeps.forM (fun p => k.announce _ _ rfl) _).bind fun _ =>
      Step.keeps_get.bind fun _ =>
      (k.saying.notice _ rfl).bind fun _ => Step.keeps_pure _

theorem perform {g : Game} (op : Operation) (step : op.plays) (start : P g) : P (op.perform g) := by
  cases op with
  | cast p c field => exact k.cast p c field g start
  | activate p c index => exact k.activate p c index g start
  | playSource p c => exact k.playSource p c g start
  | takeAction p => exact k.keeps_takeAction p g start
  | resolveTop => exact k.resolveTop g start
  | enterPhase phase => exact k.keeps_enterPhase phase g start
  | runPhase bound => exact k.keeps_runPhase bound g start
  | runTurn bound p => exact k.keeps_runTurn bound p g start
  | run bound => exact k.keeps_run bound g start
  | _ => exact nomatch step

theorem reachedFrom {start g : Game} (begins : P start)
    (reached : ReachedFrom start (fun op => op.plays) g) : P g := by
  induction reached with
  | start => exact begins
  | perform before step ih => exact k.perform _ step ih

end KeptByCourse

theorem Act.keeps_resolveTop_of {P : Game → Prop}
    (resolved : ∀ g u, P g → u ∈ g.stack.entries → Keeps P (resolveUse u))
    (popped : ∀ g, P g → P (g.modifyStack (·.pop.2))) : Keeps P resolveTop := by
  intro g start
  change P (StateT.run (ExceptT.run resolveTop) g).2
  cases top : g.stack.entries.getLast? with
  | none =>
    rw [resolveTop_of_empty top]
    exact start
  | some u =>
    rw [resolveTop_of_top top]
    have rest : Keeps P (do resolveUse u; return true : Act Bool) :=
      (resolved g u start (List.mem_of_getLast? top)).bind fun _ => keeps_pure _
    exact rest _ (popped g start)

namespace KeptByPlay

variable {P : Game → Prop} (k : KeptByPlay P)
include k

theorem course : KeptByCourse P where
  toKeptByMoves := k.moves
  resolveTop := Act.keeps_resolveTop_of (fun _ u _ _ => k.keeps_resolveUse u) k.popped
  store := k.store
  startLife := fun g => k.accounts (.ofLife _) g
  random := k.random

theorem perform {g : Game} (op : Operation) (start : P g) : P (op.perform g) := by
  cases resolves : op.resolves with
  | false => exact k.toKeptByActions.perform op resolves start
  | true =>
    refine k.course.perform op ?_ start
    cases op with
    | resolveTop => rfl
    | runPhase bound => rfl
    | runTurn bound p => rfl
    | run bound => rfl
    | _ => exact nomatch resolves

theorem reachedFrom {start g : Game} {allowed : Operation → Prop} (begins : P start)
    (reached : ReachedFrom start allowed g) : P g := by
  induction reached with
  | start => exact begins
  | perform before may ih => exact k.perform _ ih

end KeptByPlay

theorem KeptByEffects.keeps_castFor {may : Amount → SingleEffect → Prop} {P : Game → Prop}
    (k : KeptByEffects may P) (turned : ∀ {f}, Turns f → ∀ g c, P g → P (g.modifyCard c f))
    (move : ∀ c position, Act.Keeps P (Act.moveCard c .stack position))
    (stackless : ∀ g stack count, P g → P { g with stack := stack, nextUse := count })
    (p : PlayerId)
    (c : CardId) (i : CardInstance) (field : Option Nat) (x : Amount) :
    Act.Keeps P (Act.castFor p c i field x) :=
  (Act.keeps_pay_with k.announce k.store (fun _ g => turned (fun _ => rfl) g c)
    (fun _ g => turned (fun _ => rfl) g c) x).bind fun _ =>
    (Act.keeps_lift (Step.keeps_nextUseId fun g h => stackless g g.stack _ h)).bind fun _ =>
    (move _ _).bind fun _ =>
    Act.keeps_lift (k.keeps_playUse (fun g _ h => stackless g _ g.nextUse h) _)

section Stackless

variable {P : Game → Prop} (k : KeptByWrites P)
  (stackless : ∀ g stack count, P g → P { g with stack := stack, nextUse := count })
include k stackless

theorem KeptByWrites.keeps_activateFor (p : PlayerId) (c : CardId) (a : Activated) (x : Amount) :
    Act.Keeps P (Act.activateFor p c a x) := by
  refine (k.keeps_pay c _ x).bind fun _ =>
    (Act.keeps_lift (Step.keeps_nextUseId fun g h => stackless g g.stack _ h)).bind fun _ =>
    (k.keeps_payActions _).bind fun _ => ?_
  split
  · exact (Act.keeps_lift (k.keeps_pickUse _)).bind fun _ => (k.keeps_resolveUse _).bind fun _ =>
      Act.keeps_modifyThe fun g h => stackless g _ g.nextUse h
  · exact Act.keeps_lift (k.keeps_playUse (fun g _ h => stackless g _ g.nextUse h) _)

theorem KeptByPlay.of_stackless (turn : ∀ g t, P g → P { g with turn := t })
    (observers : ∀ g b, P g → P { g with observers := b })
    (accounts : ∀ {f}, Accounts f → ∀ g, P g → P { g with players := g.players.map f })
    (shuffleDecks : ∀ g, P g → P g.shuffleDecks) : KeptByPlay P :=
  { k with
    castFor := k.toKeptByEffects.keeps_castFor k.turned (fun c => k.move c .stack) stackless
    activateFor := k.keeps_activateFor stackless
    popped := fun g h => stackless g _ g.nextUse h
    priority := fun _ g h => stackless g _ g.nextUse h
    turn := turn, observers := observers, accounts := accounts, shuffleDecks := shuffleDecks }

end Stackless

/-- A property of a player that changes of accounts and zones keep, and losing too. -/
structure Player.Lasts (Q : Player → Prop) : Prop where
  account : ∀ {f}, Accounts f → ∀ s, Q s → Q (f s)
  shelve : ∀ {f}, Shelves f → ∀ s, Q s → Q (f s)
  lose : ∀ s lost, Q s → Q { s with lost := s.lost || lost }

namespace Player.Lasts

variable {Q : Player → Prop} (lasts : Lasts Q)
include lasts

theorem keeps_emit (p : PlayerId) (kind : EventKind) (subject : ObjectRef) :
    Step.Keeps (fun g => Q (g.player p)) (Step.emit kind subject) := by
  intro g holds
  rcases Step.emit_cases kind subject g with dropped | frame
  · rw [dropped]
    exact holds
  · rw [frame.player p]
    exact lasts.lose _ _ holds

theorem keeps_moveCard (p : PlayerId) (c : CardId) (goal : Zone) (position : Position) :
    Act.Keeps (fun g => Q (g.player p)) (Act.moveCard c goal position) :=
  Act.keeps_moveCard_of (fun _ => lasts.keeps_emit p _ _)
    (fun shelves _ q holds => Game.player_modifyPlayer_of holds (lasts.shelve shelves) q)
    (fun _ _ holds => holds) position

theorem keptByWrites (p : PlayerId) : KeptByWrites fun g => Q (g.player p) where
  saying := BlindToTalk.saying fun _ _ _ holds => holds
  announce kind subject _ := lasts.keeps_emit p kind subject
  lose _ := lasts.keeps_emit p _ _
  move := lasts.keeps_moveCard p
  create _ _ z := Act.keeps_createCard_of (fun _ holds => holds) fun c =>
    lasts.keeps_moveCard p c z .bottom
  mark _ _ _ holds := holds
  account accounts _ q holds := Game.player_modifyPlayer_of holds (lasts.account accounts) q
  shuffle q z := Step.keeps_shuffleZone_of q z
    (fun shelves _ q holds => Game.player_modifyPlayer_of holds (lasts.shelve shelves) q)
    fun _ _ holds => holds
  random _ _ holds := holds
  resolving _ _ holds := holds

/-- Whatever is done to a game leaves a player with what lasts. -/
theorem keptByPlay (p : PlayerId) : KeptByPlay fun g => Q (g.player p) :=
  .of_stackless (lasts.keptByWrites p) (fun _ _ _ holds => holds) (fun _ _ holds => holds)
    (fun _ _ holds => holds)
    (fun accounts _ holds => Game.player_mapWithSeat_of holds fun _ => lasts.account accounts)
    fun _ holds => Game.player_mapWithSeat_of holds fun _ => lasts.shelve fun _ => rfl

theorem of_reached (begins : ∀ config, Q (.initial config)) (vacant : Q .vacant) {g : Game}
    (reached : Reached g) (p : PlayerId) : Q (g.player p) := by
  obtain ⟨config, entrants, start, created, course⟩ := reached
  refine (lasts.keptByPlay p).reachedFrom ?_ course
  refine Game.create_induction (P := fun g => Q (g.player p)) created (fun seats => ?_)
    fun g owner template _ _ holds => ?_
  · simp only [Game.player, Game.bare, Seats.map, Seats.get?_mapWithSeat]
    cases seats.get? p with
    | none => exact vacant
    | some e => exact begins config
  · exact Game.player_modifyPlayer_of
      (g := (StateT.run (Step.addCard owner template .deck) g).2) holds
      (lasts.shelve (f := fun s => { s with deck := s.deck.insert ⟨g.cards.size⟩ .bottom })
        fun _ => rfl) owner

end Player.Lasts

def Game.PoolsFit (g : Game) : Prop :=
  ∀ p, (g.player p).essence.length ≤ EssencePool.capacity

theorem Player.lasts_poolFits : Lasts fun s => s.essence.length ≤ EssencePool.capacity where
  account accounts s := accounts.capacity s
  shelve shelves s fits := by
    rw [shelves s]
    exact fits
  lose _ _ fits := fits

theorem Reached.poolsFit {g : Game} (reached : Reached g) : g.PoolsFit :=
  Player.lasts_poolFits.of_reached (fun _ => Nat.zero_le _) (Nat.zero_le _) reached

end CardGame
