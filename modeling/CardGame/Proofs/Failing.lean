import CardGame.Proofs.Identity
import CardGame.Proofs.Queries

/-!
How effects and costs can fail. Where zones and records agree, whatever an effect finds or was given
as a target is a card of the game, so it can be moved, marked and destroyed; a token is created, a
card put only where there is room. What is left is shuffling a card into a board that is full.
-/

namespace CardGame

def PlayerEffect.shufflesOntoBoard : PlayerEffect → Bool
  | .shuffle _ zone => zone.first == .board
  | _ => false

def SingleEffect.shufflesOntoBoard : SingleEffect → Bool
  | .player e => e.shufflesOntoBoard
  | .card _ => false

def Effect.shufflesOntoBoard : Effect → Bool
  | .player _ _ effects => effects.any PlayerEffect.shufflesOntoBoard
  | .card _ _ => false

/-- Whether an ability shuffles cards into a board while it is activated: for its costs, or because
it is a cost itself. -/
def Activated.shufflesOntoBoard (a : Activated) : Bool :=
  (a.effectCosts ++ if a.isCost then a.effect.effects else []).any Effect.shufflesOntoBoard

/-- Zones and records agree, and some cards are in the game. -/
def Knows (cs : List CardId) (g : Game) : Prop :=
  ZonesAgree g ∧ ∀ c ∈ cs, (g.card? c).isSome

theorem KeptByChanges.and {P Q : Game → Prop} (p : KeptByChanges P) (q : KeptByChanges Q) :
    KeptByChanges fun g => P g ∧ Q g where
  talk g choosers chronicle h := ⟨p.talk g choosers chronicle h.1, q.talk g choosers chronicle h.2⟩
  emit kind subject g h := ⟨p.emit kind subject g h.1, q.emit kind subject g h.2⟩
  move c goal position g h := ⟨p.move c goal position g h.1, q.move c goal position g h.2⟩
  create owner template z g h := ⟨p.create owner template z g h.1, q.create owner template z g h.2⟩
  mark marks g c h := ⟨p.mark marks g c h.1, q.mark marks g c h.2⟩
  account accounts g s h := ⟨p.account accounts g s h.1, q.account accounts g s h.2⟩
  shuffle s z g h := ⟨p.shuffle s z g h.1, q.shuffle s z g h.2⟩
  random g r h := ⟨p.random g r h.1, q.random g r h.2⟩
  resolving g c h := ⟨p.resolving g c h.1, q.resolving g c h.2⟩

theorem Game.isSome_card? (g : Game) (c : CardId) :
    (g.card? c).isSome ↔ c.index < g.cards.size := by
  simp [card?]

namespace Knows

variable {cs ds : List CardId} {g : Game} {c : CardId}

theorem agree (knows : Knows cs g) : ZonesAgree g :=
  knows.1

theorem known (knows : Knows cs g) (mem : c ∈ cs) : (g.card? c).isSome :=
  knows.2 c mem

theorem sub (knows : Knows cs g) (sub : ∀ c ∈ ds, c ∈ cs) : Knows ds g :=
  ⟨knows.agree, fun c mem => knows.known (sub c mem)⟩

theorem also (knows : Knows cs g) (found : ∀ c ∈ ds, (g.card? c).isSome) : Knows (ds ++ cs) g :=
  ⟨knows.agree, fun c mem => (List.mem_append.1 mem).elim (found c) knows.known⟩

theorem without (knows : Knows (ds ++ cs) g) : Knows cs g :=
  knows.sub fun _ mem => List.mem_append_right _ mem

theorem cons (knows : Knows cs g) (found : (g.card? c).isSome) : Knows (c :: cs) g :=
  ⟨knows.agree, List.forall_mem_cons.2 ⟨found, knows.2⟩⟩

theorem tail (knows : Knows (c :: cs) g) : Knows cs g :=
  knows.sub fun _ mem => .tail _ mem

theorem kept (cs : List CardId) : KeptByChanges (Knows cs) := by
  refine keptByChanges_zonesAgree.and (.of_writes (fun {g h} start writes c mem => ?_) ?_)
  · have := (g.isSome_card? c).1 (start c mem)
    exact (h.isSome_card? c).2 (Nat.lt_of_lt_of_le this writes.cards)
  · intro kind subject g start c mem
    rw [Game.card?, Step.emit_cards]
    exact start c mem

end Knows

def cardsOf (objects : List ObjectRef) : List CardId :=
  objects.filterMap ObjectRef.card?

theorem mem_cardsOf {objects : List ObjectRef} {c : CardId} :
    c ∈ cardsOf objects ↔ ObjectRef.card c ∈ objects := by
  refine List.mem_filterMap.trans ⟨fun ⟨o, mem, same⟩ => ?_, fun mem => ⟨_, mem, rfl⟩⟩
  cases o with
  | card d => exact Option.some.inj same ▸ mem
  | player p => exact nomatch same

def PlannedEffect.picks (e : PlannedEffect) : List CardId :=
  cardsOf e.subjects ++ cardsOf e.objects

theorem AbilityUse.mem_prepareClauses {u : AbilityUse} {clauses : List Effect} {e : PlannedEffect}
    (mem : e ∈ (u.prepareClauses clauses).effects) :
    e ∈ u.effects ∨ ∃ clause ∈ clauses, ∃ group, e ∈ PlannedEffect.ofClause group clause := by
  induction clauses generalizing u with
  | nil => exact .inl mem
  | cons clause rest ih =>
    rcases ih mem with unfolded | ⟨later, listed, group, new⟩
    · exact (List.mem_append.1 unfolded).imp_right fun new => ⟨clause, .head _, u.nextGroup, new⟩
    · exact .inr ⟨later, .tail _ listed, group, new⟩

theorem Effect.ofClause_unpicked {group : Nat} {clause : Effect} {e : PlannedEffect}
    (mem : e ∈ PlannedEffect.ofClause group clause) :
    (e.subjectsPicked = false ∧ e.picked = false) ∧ e.picks = [] := by
  cases clause <;>
  · obtain ⟨effect, -, rfl⟩ := List.mem_map.1 mem
    exact ⟨⟨rfl, rfl⟩, rfl⟩

theorem Effect.ofClause_shuffles {group : Nat} {clause : Effect} {e : PlannedEffect}
    (mem : e ∈ PlannedEffect.ofClause group clause) (shuffles : e.effect.shufflesOntoBoard) :
    clause.shufflesOntoBoard := by
  cases clause with
  | player subject optional effects =>
    obtain ⟨effect, listed, rfl⟩ := List.mem_map.1 mem
    exact List.any_eq_true.2 ⟨effect, listed, shuffles⟩
  | card subject effects =>
    obtain ⟨effect, listed, rfl⟩ := List.mem_map.1 mem
    exact nomatch shuffles

theorem AbilityUse.prepareClauses_spec (u : AbilityUse) (empty : u.effects = [])
    (clauses : List Effect) :
    ∀ e ∈ (u.prepareClauses clauses).effects, e.picks = [] ∧
      (e.effect.shufflesOntoBoard → clauses.any Effect.shufflesOntoBoard) := by
  intro e mem
  rcases mem_prepareClauses mem with before | ⟨clause, listed, group, new⟩
  · rw [empty] at before
    exact nomatch before
  · exact ⟨(Effect.ofClause_unpicked new).2, fun shuffles =>
      List.any_eq_true.2 ⟨clause, listed, Effect.ofClause_shuffles new shuffles⟩⟩

namespace Act

/-- A card cannot move to a board that is full. -/
def Crowded (e : EngineError) : Prop :=
  ∃ c z, e = .illegalTransition c z .board .boardFull

variable {cs ds : List CardId} {c : CardId} {F : EngineError → Game → Prop}

theorem ends_known (mem : c ∈ cs) :
    Ends (Knows cs) (card c) (fun i g => Knows cs g ∧ g.card? c = some i) F :=
  ends_card (fun _ _ knows found => ⟨knows, found⟩) fun g knows missing => by
    have := knows.known mem
    rw [missing] at this
    exact nomatch this

theorem ends_emit (kind : EventKind) (subject : ObjectRef) :
    Ends (Knows cs) (liftM (Step.emit kind subject)) (fun _ => Knows cs) F :=
  ends_step ((Knows.kept cs).emit kind subject)

theorem ends_mark {f : CardInstance → CardInstance} (marks : Marks f) (mem : c ∈ cs) :
    Ends (Knows cs) (changeCard c f) (fun _ => Knows cs) F :=
  (ends_known mem).bind fun _ => ends_modifyThe fun g start =>
    (Knows.kept cs).mark marks g c start.1

theorem ends_account {f : Player → Player} (accounts : Accounts f) (p : PlayerId) :
    Ends (Knows cs) (modifyThe Game (·.modifyPlayer p f)) (fun _ => Knows cs) F :=
  ends_modifyThe fun g start => (Knows.kept cs).account accounts g p start

/-- A card that a use shuffles into a board finds it full. -/
structure Overfull (u : AbilityUse) (e : EngineError) : Prop where
  shuffles : ∃ d ∈ u.effects, d.effect.shufflesOntoBoard
  crowded : Crowded e

structure Refused (P : Game → Prop) (c : CardId) (i : CardInstance) (goal : Zone) (e : EngineError)
    (g : Game) : Prop where
  start : P g
  board : goal = .board
  full : (g.player i.controller).board.firstFree? = none
  error : e = .illegalTransition c i.zone .board .boardFull

theorem ends_slotFor {P : Game → Prop} {i : CardInstance} {goal : Zone} {position : Position}
    (unplaced : ∀ k, position ≠ .index k) (outside : goal = .board → i.zone ≠ .board) :
    Ends P (slotFor c i goal position) (fun _ => P) (Refused P c i goal) := by
  unfold slotFor
  split
  · exact ends_pure fun _ start => start
  · next elsewhere =>
    have board : goal = .board := Decidable.not_not.1 elsewhere
    rw [if_neg (outside board)]
    refine ends_readGame.bind fun known => ?_
    dsimp only
    split
    · next k => exact absurd rfl (unplaced k)
    · split
      · exact ends_pure fun _ start => start.2
      · next full =>
        exact ends_throw fun g start => ⟨start.2, board, start.1 ▸ full, by rw [board]⟩

theorem ends_takeOut {i : CardInstance} (mem : c ∈ cs) :
    Ends (Knows cs) (takeOut c i) (fun _ _ => True) F := by
  unfold takeOut
  split
  · exact (ends_emit _ _).bind fun _ => (ends_known mem).bind fun _ =>
      ends_modifyThe fun _ _ => trivial
  · exact ends_modifyThe fun _ _ => trivial

theorem ends_putInto {P : Game → Prop} (c : CardId) (i : CardInstance) (goal : Zone)
    (position : Position) (slot : Option Nat) :
    Ends P (putInto c i goal position slot) (fun _ _ => True) F := by
  cases slot <;> exact fun _ _ => trivial

theorem ends_moveCard {P : Game → Prop} {i : CardInstance} {goal : Zone} {position : Position}
    (unplaced : ∀ k, position ≠ .index k) (knows : ∀ g, P g → Knows cs g) (mem : c ∈ cs)
    (found : ∀ g, P g → g.card? c = some i) (outside : goal = .board → i.zone ≠ .board) :
    Ends P (moveCard c goal position) (fun _ => Knows cs) (Refused P c i goal) := by
  have moved : Ends P (moveCard c goal position) (fun _ _ => True) (Refused P c i goal) := by
    refine (ends_readCard found).bind fun j => .given fun same => ?_
    subst same
    refine (ends_slotFor unplaced outside).bind fun slot => ?_
    refine ((ends_takeOut mem).starting knows).bind fun _ => ?_
    refine (ends_putInto c j goal position slot).bind fun _ => ?_
    split
    · exact ends_lift fun _ _ => trivial
    · exact ends_pure fun _ _ => trivial
  exact (moved.keeping ((Knows.kept cs).move c goal position)).weaken
    (fun g start => ⟨start, knows g start⟩) (fun _ _ kept => kept.2) fun _ _ failed => failed

theorem ends_moveElsewhere {goal : Zone} {position : Position} (unplaced : ∀ k, position ≠ .index k)
    (mem : c ∈ cs) (elsewhere : goal ≠ .board) :
    Ends (Knows cs) (moveCard c goal position) (fun _ => Knows cs) F := by
  intro g knows
  obtain ⟨i, found⟩ := Option.isSome_iff_exists.1 (knows.known mem)
  have moved := ends_moveCard (P := fun h => h = g) unplaced (fun h same => same ▸ knows) mem
    (fun h same => same ▸ found) fun board => absurd board elsewhere
  exact moved.failing (fun _ _ refused => absurd refused.board elsewhere) g rfl

theorem seated_of_room {g : Game} {p : PlayerId} (room : (g.player p).board.firstFree?.isSome) :
    (g.players.get? p).isSome := by
  cases seat : g.players.get? p with
  | some s => rfl
  | none =>
    rw [Game.player, seat] at room
    exact absurd room Bool.false_ne_true

theorem ends_createCard (owner : PlayerId) (template : Card) :
    Ends (fun g => Knows cs g ∧ (g.player owner).board.firstFree?.isSome)
      (createCard owner template .board) (fun _ => Knows cs) F := by
  intro g start
  let new : CardId := ⟨g.cards.size⟩
  let i : CardInstance := .fresh new template owner .stack
  let h : Game := { g with cards := g.cards.push i }
  have seat := seated_of_room start.2
  have seated : owner.seat < g.players.count := by
    obtain ⟨s, found⟩ := Option.isSome_iff_exists.1 seat
    exact (List.getElem?_eq_some_iff.1 found).1
  have recorded : h.card? new = some i := Array.getElem?_push_size
  have grown : Knows cs h := by
    refine ⟨start.1.agree.addedToStack seated template, fun c mem => ?_⟩
    have := (g.isSome_card? c).1 (start.1.known mem)
    exact (h.isSome_card? c).2 (Nat.lt_of_lt_of_le this (by simp [h]))
  have grown : Knows (new :: cs) h := grown.cons (by rw [recorded]; rfl)
  have added : Ends (fun f => f = g) (liftM (Step.addCard owner template .stack))
      (fun c f => c = new ∧ f = h) F :=
    ends_lift fun f same => by
      subst same
      exact ⟨rfl, rfl⟩
  have moved : Ends (fun f => f = h) (moveCard new .board .bottom)
      (fun _ => Knows (new :: cs)) F := by
    refine (ends_moveCard (i := i) (by simp) (fun f same => same ▸ grown) (.head _)
      (fun f same => same ▸ recorded) fun _ => nofun).failing ?_
    intro e f refused
    have full := refused.full
    rw [refused.start] at full
    exact absurd start.2 (by rw [show g.player owner = h.player i.controller from rfl, full]; nofun)
  have whole : Ends (fun f => f = g) (createCard owner template .board) (fun _ => Knows cs) F := by
    refine ends_readGiven.bind fun known => .given fun same => ?_
    subst same
    refine Ends.bind (Q := fun _ f => f = known)
      (ends_require (fun _ same _ => same) fun _ _ unmet =>
        absurd seat (by simpa using unmet)) fun _ => ?_
    refine Ends.bind (Q := fun _ f => f = known)
      (ends_require (fun _ same _ => same) fun _ _ unmet => absurd start.2 (by simpa using unmet))
      fun _ => ?_
    refine added.bind fun c => .given fun same => ?_
    subst same
    exact moved.bind fun _ => ends_pure fun _ knows => knows.tail
  exact whole g rfl

theorem known_of_top {g : Game} {p : PlayerId} (agree : ZonesAgree g)
    (top : (g.player p).deck.top? = some c) : (g.card? c).isSome :=
  agree.known_of_holds (p := p) (z := .deck) (List.mem_of_mem_head? top)

theorem ends_drawCards (p : PlayerId) (n : Nat) :
    Ends (Knows cs) (drawCards p n) (fun _ => Knows cs) F := by
  induction n with
  | zero => exact ends_pure fun _ start => start
  | succ n ih =>
    refine ends_readGame.bind fun known => ?_
    split
    · exact (ends_emit _ _).starting fun _ start => start.2
    · next c top =>
      have drawn : Ends (Knows (c :: cs)) (do
          moveCard c .hand .bottom
          Step.emit .draw (.card c)
          drawCards p n) (fun _ => Knows cs) F :=
        (ends_moveElsewhere (by simp) (.head _) (by decide)).bind fun _ =>
          (ends_emit _ _).bind fun _ =>
          ih.starting fun _ knows => knows.tail
      exact drawn.starting fun g start => start.2.cons (known_of_top start.2.agree (start.1 ▸ top))

theorem ends_destroy (mem : c ∈ cs) : Ends (Knows cs) (destroy c) (fun _ => Knows cs) F :=
  (ends_moveElsewhere (by simp) mem (by decide)).bind fun _ => ends_emit _ _

theorem ends_checkLethal (mem : c ∈ cs) :
    Ends (Knows cs) (checkLethal c) (fun _ => Knows cs) F := by
  refine (ends_known mem).bind fun i => ?_
  split
  · exact (ends_destroy mem).starting fun _ start => start.1
  · exact ends_pure fun _ start => start.1

theorem ends_dealDamage (mem : c ∈ cs) (n : Amount) :
    Ends (Knows cs) (dealDamage c n) (fun _ => Knows cs) F :=
  (ends_mark (fun _ => rfl) mem).bind fun _ => (ends_emit _ _).bind fun _ => ends_checkLethal mem

theorem ends_createTokens (p : PlayerId) (template : Card) (n : Nat) :
    Ends (Knows cs) (createTokens p template n) (fun _ => Knows cs) F := by
  induction n with
  | zero => exact ends_pure fun _ start => start
  | succ n ih =>
    refine ends_readGame.bind fun known => ?_
    split
    · next room =>
      refine Ends.bind (Q := fun _ => Knows cs) ?_ fun _ => ih
      exact (ends_createCard p template).starting fun _ start => ⟨start.2, start.1 ▸ room⟩
    · exact ends_pure fun _ start => start.2

theorem ends_destroyCards {cards : List CardId} (within : ∀ c ∈ cards, c ∈ cs) :
    Ends (Knows cs) (destroyCards cards) (fun _ => Knows cs) F := by
  refine Ends.forM fun c mem => (ends_known (within c mem)).bind fun i => ?_
  split
  · exact (ends_destroy (within c mem)).starting fun _ start => start.1
  · exact ends_pure fun _ start => start.1

theorem ends_discard (p : PlayerId) (count : Amount) (eligible : Option (List CardId)) :
    Ends (Knows cs) (discard p count eligible) (fun _ => Knows cs) F := by
  have known : Ends (Knows cs) (getThe Game)
      (fun known => Knows ((known.player p).hand.cards ++ cs)) F :=
    ends_getThe fun g start => start.also fun _ mem => start.agree.known_of_holds (z := .hand) mem
  refine known.bind fun known => ?_
  dsimp only
  generalize (known.player p).hand.cards = hand
  refine Ends.bind (ends_step (Step.keeps_chooseMany (Knows.kept _).talk _ _ _)) fun chosen => ?_
  refine (Ends.forM fun k _ => ?_).after fun _ _ knows => knows.without
  have discarded : ∀ c ∈ hand, Ends (Knows (hand ++ cs)) (do
      moveCard c .pile .top
      Step.emit .discard (.card c)) (fun _ => Knows (hand ++ cs)) F := fun c mem =>
    (ends_moveElsewhere (by simp) (List.mem_append_left _ mem) (by decide)).bind fun _ =>
      ends_emit _ _
  cases eligible with
  | none =>
    split
    · exact ends_pure fun _ start => start
    · next c picked => exact discarded c (List.mem_of_getElem? picked)
  | some cards =>
    split
    · exact ends_pure fun _ start => start
    · next c picked => exact discarded c (List.mem_filter.1 (List.mem_of_getElem? picked)).1

theorem ends_shuffleInto (p : PlayerId) {cards : List CardId} (within : ∀ c ∈ cards, c ∈ cs)
    (z : Zone) :
    Ends (Knows cs) (shuffleInto p cards z) (fun _ => Knows cs) fun e _ => z = .board ∧
      Crowded e := by
  refine (Ends.forM fun c mem => ?_).bind fun _ => ends_step ((Knows.kept cs).shuffle p z)
  refine (ends_known (within c mem)).bind fun i => ?_
  split
  · next elsewhere =>
    refine (ends_moveCard (by simp) (fun g start => start.1) (within c mem) (fun g start => start.2)
      fun board => board ▸ elsewhere).failing ?_
    exact fun e g refused => ⟨refused.board, c, i.zone, refused.error⟩
  · exact ends_pure fun _ start => start.1

theorem ends_look (p : PlayerId) (count : Amount) (z : Zone) :
    Ends (Knows cs) (look p count z) (fun _ => Knows cs) F := by
  refine (ends_getThe fun _ start => start).bind fun known => ?_
  split <;> exact ends_step (Step.keeps_reveal (Knows.kept cs).talk _ _)

theorem ends_shuffled (cards : List CardId) :
    Ends (Knows cs) (liftM (shuffled cards)) (fun shuffled g => shuffled.Perm cards ∧
      Knows cs g) F := by
  have perm : Step.Gives (shuffled cards) (·.Perm cards) := fun _ => Random.arrange_perm _ _
  exact (ends_step ((Knows.kept cs).keeps_shuffled cards)).giving (gives_lift perm)
    fun _ _ knows perm => ⟨perm, knows⟩

theorem ends_put {cards : List CardId} (within : ∀ c ∈ cards, c ∈ cs) (z : Zone)
    {position : Position} (unplaced : ∀ k, position ≠ .index k) (deactivated : Bool) :
    Ends (Knows cs) (put cards z position deactivated) (fun _ => Knows cs) F := by
  refine Ends.forM fun c mem => (ends_known (within c mem)).bind fun i => ?_
  refine ends_readGame.bind fun known => ?_
  dsimp only
  split
  · exact ends_pure fun _ start => start.2.1
  · next room =>
    have moved : Ends (fun g => known = g ∧ Knows cs g ∧ g.card? c = some i) (moveCard c z position)
        (fun _ => Knows cs) F := by
      refine (ends_moveCard unplaced (fun g start => start.2.1) (within c mem)
        (fun g start => start.2.2)
        fun board boarded => room ⟨board, .inl boarded⟩).failing fun e g refused => ?_
      have full := refused.full
      rw [← refused.start.1] at full
      exact absurd ⟨refused.board, .inr (by rw [full]; rfl)⟩ room
    refine moved.bind fun _ => ?_
    split
    · exact ends_mark (fun _ => rfl) (within c mem)
    · exact ends_pure fun _ start => start

theorem ends_setActivated {cards : List CardId} (within : ∀ c ∈ cards, c ∈ cs) (on : Bool) :
    Ends (Knows cs) (setActivated cards on) (fun _ => Knows cs) F :=
  Ends.forM fun c mem => (ends_mark (fun _ => rfl) (within c mem)).bind fun _ => ends_emit _ _

theorem ends_ownedOnBoard (p : PlayerId) {cards : List CardId} (within : ∀ c ∈ cards, c ∈ cs) :
    Ends (Knows cs) (ownedOnBoard p cards) (fun owned g => (∀ c ∈ owned, c ∈ cards) ∧
      Knows cs g) F :=
  Ends.filterM fun c mem => (ends_known (within c mem)).bind fun _ =>
    ends_pure fun _ start => start.1

theorem ends_sacrificeEach (u : AbilityUse) {cards : List CardId} (within : ∀ c ∈ cards, c ∈ cs) :
    Ends (Knows cs) (sacrificeEach u cards) (fun _ => Knows cs) F := by
  induction cards generalizing u with
  | nil => exact ends_pure fun _ start => start
  | cons c rest ih =>
    exact (ends_moveElsewhere (by simp) (within c (.head _)) (by decide)).bind fun _ =>
      (ends_emit _ _).bind fun _ => ih _ fun d mem => within d (.tail _ mem)

theorem ends_sacrifice (u : AbilityUse) (p : PlayerId) (m : CardMatch) {cards : List CardId}
    (within : ∀ c ∈ cards, c ∈ cs) :
    Ends (Knows cs) (sacrifice u p m cards) (fun _ => Knows cs) F := by
  refine (ends_ownedOnBoard p within).bind fun owned => .given fun among => ?_
  split
  · refine (ends_step (Step.keeps_chooseOne (Knows.kept cs).talk _ _)).bind fun chosen => ?_
    split
    · exact ends_pure fun _ start => start
    · next c picked =>
      obtain ⟨k, -, picked⟩ := Option.bind_eq_some_iff.1 picked
      have mem := within c (among c (List.mem_of_getElem? picked))
      exact ends_sacrificeEach u fun d single => List.mem_singleton.1 single ▸ mem
  · exact ends_sacrificeEach u fun c mem => within c (among c mem)

theorem known_of_slot {g : Game} {p : PlayerId} {k : Nat} (agree : ZonesAgree g)
    (held : (g.player p).board.get? k = some c) : (g.card? c).isSome :=
  agree.known_of_holds (p := p) (z := .board) (Board.mem_cards_of_get? held)

theorem ends_attack (mem : c ∈ cs) : Ends (Knows cs) (attack c) (fun _ => Knows cs) F := by
  refine (ends_known mem).bind fun i => ?_
  have emitted : Ends (fun g => Knows cs g ∧ g.card? c = some i)
    (liftM (Step.emit .attack (.card c)))
      (fun _ => Knows cs) F := (ends_emit _ _).starting fun _ start => start.1
  refine emitted.bind fun _ => ends_readGame.bind fun known => ?_
  split
  · exact ends_pure fun _ start => start.2
  · split
    · next opponent _ blocker held =>
      obtain ⟨k, -, held⟩ := Option.bind_eq_some_iff.1 held
      have hit : Ends (Knows (blocker :: cs)) (do
          Step.emit .block (.card blocker)
          dealDamage blocker i.power) (fun _ => Knows cs) F :=
        (ends_emit _ _).bind fun _ => (ends_dealDamage (.head _) _).after
          fun _ _ knows => knows.tail
      exact hit.starting fun g start => start.2.cons
        (start.1 ▸ known_of_slot (start.1 ▸ start.2.agree) held)
    · exact Ends.starting ((ends_step ((Knows.kept cs).harm _ _)).bind fun _ => ends_emit _ _)
        fun _ start => start.2

theorem ends_damageObject (n : Amount) {o : ObjectRef} (within : ∀ c, o = .card c → c ∈ cs) :
    Ends (Knows cs) (damageObject n o) (fun _ => Knows cs) F := by
  cases o with
  | card c =>
    refine (ends_known (within c rfl)).bind fun i => ?_
    split
    · exact (ends_dealDamage (within c rfl) n).starting fun _ start => start.1
    · exact ends_pure fun _ start => start.1
  | player p => exact (ends_step ((Knows.kept cs).harm p n)).bind fun _ => ends_emit _ _

theorem ends_applyToPlayer (u : AbilityUse) (e : PlayerEffect) (p : PlayerId)
    {objects : List ObjectRef} (within : ∀ c ∈ cardsOf objects, c ∈ cs) :
    Ends (Knows cs) (applyToPlayer u e p objects) (fun _ => Knows cs)
      fun fault _ => e.shufflesOntoBoard ∧ Crowded fault := by
  have unchanged : ∀ {F}, Ends (Knows cs) (pure u : Act AbilityUse) (fun _ => Knows cs) F :=
    ends_pure fun _ start => start
  unfold applyToPlayer
  cases e with
  | draw count => exact (ends_drawCards p _).bind fun _ => unchanged
  | token count stats kinds subtypes => exact (ends_createTokens p _ _).bind fun _ => unchanged
  | destroy target => exact (ends_destroyCards within).bind fun _ => unchanged
  | discard count filter => exact (ends_discard p _ _).bind fun _ => unchanged
  | shuffle cards zone =>
    refine Ends.bind (Q := fun _ => Knows cs) ?_ fun _ => unchanged
    exact (ends_shuffleInto p within zone.first).failing fun _ _ failed =>
      ⟨beq_iff_eq.2 failed.1, failed.2⟩
  | look count zone => exact (ends_look p _ _).bind fun _ => unchanged
  | put cards position zone anyOrder randomOrder deactivated =>
    have placed : ∀ shuffled : List CardId, shuffled.Perm (cardsOf objects) → Ends (Knows cs) (do
        put shuffled zone.first (if position = .top then .top else .bottom) deactivated
        return u) (fun _ => Knows cs) fun fault _ => PlayerEffect.shufflesOntoBoard
          (.put cards position zone anyOrder randomOrder deactivated) ∧ Crowded fault := by
      intro shuffled perm
      refine (ends_put (fun c mem => within c (perm.mem_iff.1 mem)) _ ?_ _).bind fun _ => unchanged
      split <;> simp
    dsimp only
    split
    · exact (ends_shuffled _).bind fun shuffled => .given (placed shuffled)
    · exact placed _ (.refl _)
  | activate cards => exact (ends_setActivated within _).bind fun _ => unchanged
  | deactivate cards => exact (ends_setActivated within _).bind fun _ => unchanged
  | sacrifice m => exact ends_sacrifice u p m within
  | add essence =>
    exact (ends_account (Stores.addEssence essence u.x).accounts p).bind fun _ => unchanged
  | payEssence costs =>
    exact (ends_account (Stores.spend costs u.x).accounts p).bind fun _ => unchanged
  | gainLife amount =>
    exact (ends_step ((Knows.kept cs).keeps_gainLife p _)).bind fun _ => unchanged
  | loseLife amount => exact (ends_step ((Knows.kept cs).harm p _)).bind fun _ => unchanged
  | payLife amount => exact (ends_step ((Knows.kept cs).harm p _)).bind fun _ => unchanged
  | extraTurn count => exact (ends_account (Stores.ofTurns _).accounts p).bind fun _ => unchanged

theorem ends_applyToCard (x : Amount) (e : CardEffect) (mem : c ∈ cs) {objects : List ObjectRef}
    (within : ∀ c ∈ cardsOf objects, c ∈ cs) :
    Ends (Knows cs) (applyToCard x e c objects) (fun _ => Knows cs) F := by
  cases e with
  | damage amount target =>
    exact Ends.forM fun o listed => ends_damageObject _ fun c same =>
      within c (mem_cardsOf.2 (same ▸ listed))
  | gets powerSign power healthSign health =>
    exact (ends_mark (fun _ => rfl) mem).bind fun _ => ends_checkLethal mem
  | attack => exact ends_attack mem

theorem ends_resolveForPlayer (e : PlannedEffect) (effect : PlayerEffect) {objects : List ObjectRef}
    (within : ∀ c ∈ cardsOf objects, c ∈ cs) (r : Resolution) (p : PlayerId) :
    Ends (Knows cs) (resolveForPlayer e effect objects r p) (fun _ => Knows cs)
      fun fault _ => effect.shufflesOntoBoard ∧ Crowded fault := by
  have applied : ∀ accepted answers, Ends (Knows cs) (if accepted = true then do
      return ⟨← applyToPlayer r.use effect p objects, answers⟩
    else return ⟨r.use, answers⟩ : Act Resolution) (fun _ => Knows cs)
      fun fault _ => effect.shufflesOntoBoard ∧ Crowded fault := by
    intro accepted answers
    split
    · exact (ends_applyToPlayer _ _ _ within).bind fun _ => ends_pure fun _ start => start
    · exact ends_pure fun _ start => start
  unfold resolveForPlayer
  split
  · refine (ends_step ((Knows.kept cs).keeps_consents _ _ _)).bind fun r => ?_
    exact applied r.1 r.2
  · exact applied true r.consents

theorem known_of_subjects {g : Game} (knows : Knows cs g) {u : AbilityUse} {e : PlannedEffect}
    (source : u.source ∈ cs) (picked : ∀ c ∈ cardsOf e.subjects, c ∈ cs) :
    ∀ c ∈ cardsOf (g.subjectsOf u e), (g.card? c).isSome := by
  intro c mem
  rw [mem_cardsOf] at mem
  unfold Game.subjectsOf at mem
  split at mem
  · exact knows.known (picked c (mem_cardsOf.2 mem))
  · split at mem
    · exact knows.agree.known_of_query mem
    · exact knows.agree.known_of_query mem
    · exact nomatch List.mem_singleton.1 mem
    · rw [ObjectRef.card.inj (List.mem_singleton.1 mem)]
      exact knows.known source

theorem known_of_objects {g : Game} (knows : Knows cs g) {u : AbilityUse} {e : PlannedEffect}
    (picked : ∀ c ∈ cardsOf e.objects, c ∈ cs) :
    ∀ c ∈ cardsOf (g.objectsFor u e), (g.card? c).isSome := by
  intro c mem
  rw [mem_cardsOf] at mem
  unfold Game.objectsFor at mem
  split at mem
  · exact knows.known (picked c (mem_cardsOf.2 mem))
  · split at mem
    · exact knows.agree.known_of_query mem
    · exact nomatch mem

theorem ends_resolveEffect {r : Resolution} {e : PlannedEffect} (source : r.use.source ∈ cs)
    (subjects : ∀ c ∈ cardsOf e.subjects, c ∈ cs) (objects : ∀ c ∈ cardsOf e.objects, c ∈ cs) :
    Ends (Knows cs) (resolveEffect r e) (fun _ => Knows cs)
      fun fault _ => e.effect.shufflesOntoBoard ∧ Crowded fault := by
  have known : ∀ {F}, Ends (Knows cs) (getThe Game) (fun known => Knows
      (cardsOf (known.subjectsOf r.use e) ++ (cardsOf (known.objectsFor r.use e) ++ cs))) F :=
    ends_getThe fun g start =>
      have found := start.also (known_of_objects start objects)
      found.also (known_of_subjects start source subjects)
  refine known.bind fun known => ?_
  dsimp only
  generalize known.subjectsOf r.use e = acting
  generalize known.objectsFor r.use e = affected
  have within : ∀ c ∈ cardsOf affected, c ∈ cardsOf acting ++ (cardsOf affected ++ cs) :=
    fun c mem => List.mem_append_right _ (List.mem_append_left _ mem)
  have forget : ∀ g, Knows (cardsOf acting ++ (cardsOf affected ++ cs)) g → Knows cs g :=
    fun g knows => knows.without.without
  split
  · next effect same =>
    rw [same]
    refine (Ends.foldlM (R := fun _ => Knows _) (fun r p _ => ?_) r).after fun _ => forget
    exact ends_resolveForPlayer e effect within r p
  · next effect same =>
    refine (Ends.forM fun c mem => ?_).bind fun _ => ends_pure forget
    exact ends_applyToCard r.use.x effect (List.mem_append_left _ mem) within

theorem ends_resolveEffects {u : AbilityUse} (source : u.source ∈ cs)
    (picked : ∀ e ∈ u.effects, ∀ c ∈ e.picks, c ∈ cs) :
    Ends (Knows cs) (resolveEffects u) (fun _ => Knows cs) fun e _ => Overfull u e := by
  have step : ∀ r, ∀ e ∈ u.effects, Ends (fun g => u.Becomes r.use ∧ Knows cs g) (resolveEffect r e)
      (fun s g => u.Becomes s.use ∧ Knows cs g) fun e _ => Overfull u e := by
    intro r e mem
    refine .given fun becomes => ?_
    have resolved := ends_resolveEffect (r := r) (becomes.source_eq ▸ source)
      (fun c among => picked e mem c (List.mem_append_left _ among))
      fun c among => picked e mem c (List.mem_append_right _ among)
    have later := resolved.giving (resolveEffect_becomes r e) (R := fun s g => u.Becomes s.use ∧
      Knows cs g)
      fun s g knows next => ⟨becomes.trans next, knows⟩
    exact later.failing fun _ _ failed =>
      ⟨⟨e, mem, failed.1⟩, failed.2⟩
  have all := Ends.foldlM step ⟨u, []⟩
  exact (all.starting fun _ start => ⟨.refl u, start⟩).bind fun _ =>
    ends_pure fun _ start => start.2

theorem run_attempt_bind {α β : Type} (act : Act α) (f : Except EngineError α → Act β) (g : Game) :
    StateT.run (ExceptT.run (attempt act >>= f)) g =
      StateT.run (ExceptT.run (f (StateT.run (ExceptT.run act) g).1))
        (StateT.run (ExceptT.run act) g).2 :=
  rfl

theorem run_onBehalfOf {α : Type} (c : CardId) (act : Act α) (g : Game) :
    StateT.run (ExceptT.run (onBehalfOf c act)) g =
      ((StateT.run (ExceptT.run act) { g with resolving := some c }).1,
        { (StateT.run (ExceptT.run act) { g with resolving := some c }).2 with
          resolving := g.resolving }) := by
  change StateT.run (ExceptT.run (attempt act >>= fun result => do
    modifyThe Game fun h => { h with resolving := g.resolving }
    ofOutcome result)) { g with resolving := some c } = _
  rw [run_attempt_bind]
  cases (StateT.run (ExceptT.run act) { g with resolving := some c }).1 <;> rfl

theorem Ends.onBehalfOf {α : Type} {act : Act α} {E : EngineError → Prop}
    (h : Ends (Knows cs) act (fun _ => Knows cs) fun e _ => E e) (c : CardId) :
    Ends (Knows cs) (onBehalfOf c act) (fun _ => Knows cs) fun e _ => E e := by
  intro g start
  have led := h _ ((Knows.kept cs).resolving g (some c) start)
  rw [run_onBehalfOf]
  cases ran : StateT.run (ExceptT.run act) { g with resolving := some c } with
  | mk result k =>
    rw [ran] at led
    cases result with
    | ok a => exact (Knows.kept cs).resolving k _ led
    | error e => exact led

theorem run_attempt_ofOutcome {α : Type} (act : Act α) (g : Game) :
    StateT.run (ExceptT.run (attempt act >>= fun result => ofOutcome result >>=
      fun _ => pure ())) g =
      StateT.run (ExceptT.run (act >>= fun _ => pure ())) g := by
  rw [run_attempt_bind]
  change _ = StateT.run (ExceptT.bindCont (fun _ => pure ()) (StateT.run (ExceptT.run act) g).1)
    (StateT.run (ExceptT.run act) g).2
  cases (StateT.run (ExceptT.run act) g).1 <;> rfl

theorem run_resolveUse {u : AbilityUse} (activated : u.kind ≠ .cast) (g : Game) :
    StateT.run (ExceptT.run (resolveUse u)) g =
      StateT.run (ExceptT.run (onBehalfOf u.source (resolveEffects u >>= fun _ => pure ()))) g := by
  rw [resolveUse, run_onBehalfOf, run_onBehalfOf, ← run_attempt_ofOutcome, run_attempt_bind,
    run_attempt_bind, if_neg activated]

theorem ends_resolveNow {u : AbilityUse} (source : u.source ∈ cs)
    (picked : ∀ e ∈ u.effects, ∀ c ∈ e.picks, c ∈ cs) :
    Ends (Knows cs) (resolveNow u) (fun _ => Knows cs) fun e _ => Overfull u e :=
  (ends_resolveEffects source picked).onBehalfOf u.source

theorem ends_resolveUse {u : AbilityUse} (activated : u.kind ≠ .cast) (source : u.source ∈ cs)
    (picked : ∀ e ∈ u.effects, ∀ c ∈ e.picks, c ∈ cs) :
    Ends (Knows cs) (resolveUse u) (fun _ => Knows cs) fun e _ => Overfull u e := by
  intro g start
  rw [run_resolveUse activated]
  have resolved : Ends (Knows cs) (resolveEffects u >>= fun _ => pure ()) (fun _ => Knows cs)
      fun e _ => Overfull u e :=
    (ends_resolveEffects source picked).bind fun _ => ends_pure fun _ knows => knows
  exact resolved.onBehalfOf u.source g start

end Act

end CardGame
