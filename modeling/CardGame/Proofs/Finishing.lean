import CardGame.Grammar.Card
import CardGame.Proofs.Failing

/-!
How the cast of a card ends. The effects of its use come first, and they may fail half way, move the
card or fill the board; whatever they leave, finishing the cast takes a card that is still on the
stack off it. The slot is looked for only then, so the moves that finish a cast are never refused.
-/

namespace CardGame

/-- Two games with the same cards, which lie alike. -/
structure LieAlike (g h : Game) : Prop where
  cards : h.cards = g.cards
  seats : h.players.count = g.players.count
  players : ∀ p, (h.player p).holds = (g.player p).holds ∧ (h.player p).board = (g.player p).board

namespace LieAlike

variable {g h : Game}

theorem of_frame (players : h.players = g.players) (cards : h.cards = g.cards) : LieAlike g h :=
  ⟨cards, by rw [players], fun p => by simp only [Game.player, players, and_self]⟩

theorem stays (alike : LieAlike g h) (c : CardId) : Stays c g h :=
  .of_players alike.seats alike.players alike.cards c

theorem card? (alike : LieAlike g h) (c : CardId) : h.card? c = g.card? c := by
  rw [Game.card?, Game.card?, alike.cards]

theorem emit (kind : EventKind) (subject : ObjectRef) (g : Game) :
    LieAlike g (StateT.run (Step.emit kind subject) g).2 := by
  rcases Step.emit_cases kind subject g with dropped | frame
  · rw [dropped]
    exact of_frame rfl rfl
  · refine ⟨frame.cards, frame.seats, fun p => ?_⟩
    rw [frame.player p]
    exact ⟨funext fun z => by cases z <;> rfl, rfl⟩

end LieAlike

structure LaidDown (c : CardId) (i : CardInstance) (g h : Game) : Prop where
  record : h.card? c = some { i with zone := .pile }
  onTop : (h.player i.owner).pile.cards = c :: (g.player i.owner).pile.cards
  others : ∀ d, d ≠ c → Stays d g h

/-- From one game to another one a card took a slot of its controller's board, and no other one
moved. -/
structure TookSlot (c : CardId) (i : CardInstance) (slot : Nat) (g h : Game) : Prop where
  record : h.card? c = some { i with slot := some slot, zone := .board }
  held : (h.player i.controller).board.get? slot = some c
  others : ∀ d, d ≠ c → Stays d g h

/-- Where the card of a cast use is once the cast is finished, by what the effects left. -/
inductive CastEnds (u : AbilityUse) (i : CardInstance) (g h : Game) : Prop
  /-- The effects moved the card: it stays where they put it. -/
  | moved (off : i.zone ≠ .stack) (stays : Stays u.source g h)
  | spell (stacked : i.zone = .stack) (spell : i.card.isSpell = true)
      (laid : LaidDown u.source i g h)
  /-- The slot that the cast asked for is free. -/
  | field {slot : Nat} (stacked : i.zone = .stack) (permanent : i.card.isSpell = false)
      (wanted : u.field = some slot) (free : (g.player i.controller).board.isFree slot)
      (took : TookSlot u.source i slot g h)
  | firstFree {slot : Nat} (stacked : i.zone = .stack) (permanent : i.card.isSpell = false)
      (taken : ∀ wanted, u.field = some wanted → ¬ (g.player i.controller).board.isFree wanted)
      (first : (g.player i.controller).board.firstFree? = some slot)
      (took : TookSlot u.source i slot g h)
  | full (stacked : i.zone = .stack) (permanent : i.card.isSpell = false)
      (full : (g.player i.controller).board.firstFree? = none) (laid : LaidDown u.source i g h)

theorem CastEnds.offStack {u : AbilityUse} {i j : CardInstance} {g h : Game}
    (ends : CastEnds u i g h)
    (before : g.card? u.source = some i) (after : h.card? u.source = some j) : j.zone ≠ .stack := by
  have elsewhere : ∀ {k : CardInstance}, h.card? u.source = some k → k.zone ≠ .stack →
      j.zone ≠ .stack :=
    fun found off => Option.some.inj (found.symm.trans after) ▸ off
  have pile : Zone.pile ≠ .stack := by decide
  have board : Zone.board ≠ .stack := by decide
  cases ends with
  | moved off stays =>
    have record := stays.record
    rw [before, after, Option.map_some, Option.map_some, Option.some.injEq] at record
    simp only [CardInstance.place, Prod.mk.injEq] at record
    rw [record.2.2.1]
    exact off
  | spell _ _ laid => exact elsewhere laid.record pile
  | field _ _ _ _ took => exact elsewhere took.record board
  | firstFree _ _ _ _ took => exact elsewhere took.record board
  | full _ _ _ laid => exact elsewhere laid.record pile

namespace LaidDown

variable {c : CardId} {i : CardInstance} {g h : Game}

theorem later {k : Game} (laid : LaidDown c i g h) (alike : LieAlike h k) : LaidDown c i g k where
  record := (alike.card? c).trans laid.record
  onTop := (congrFun (alike.players i.owner).1 .pile).trans laid.onTop
  others d other := (laid.others d other).trans (alike.stays d)

theorem of_insert (seated : i.owner.seat < g.players.count) (found : g.card? c = some i) :
    LaidDown c i g ((g.modifyPlayer i.owner (·.modifyPile .pile (·.insert c .top))).modifyCard c
      fun i => { i with zone := .pile }) where
  record := by
    rw [Game.card?_modifyCard_self]
    exact congrArg (Option.map _) found
  onTop := by
    change ((g.modifyPlayer i.owner (·.modifyPile .pile (·.insert c .top))).player
      i.owner).pile.cards = _
    rw [Game.player_modifyPlayer_self seated]
    rfl
  others d other := by
    have pile : Zone.pile ≠ .board := nofun
    exact .trans (.insert other pile _ .top) (.modifyCard_of_ne other.symm _)

end LaidDown

namespace TookSlot

variable {c : CardId} {i : CardInstance} {slot : Nat} {g h : Game}

theorem later {k : Game} (took : TookSlot c i slot g h) (alike : LieAlike h k) :
    TookSlot c i slot g k where
  record := (alike.card? c).trans took.record
  held := by
    rw [(alike.players i.controller).2]
    exact took.held
  others d other := (took.others d other).trans (alike.stays d)

theorem of_place (seated : i.controller.seat < g.players.count) (found : g.card? c = some i)
    (free : (g.player i.controller).board.isFree slot) :
    TookSlot c i slot g (((g.modifyPlayer i.controller fun p =>
      { p with board := p.board.place slot c }).modifyCard c fun i =>
        { i with slot := some slot }).modifyCard
        c fun i => { i with zone := .board }) where
  record := by
    rw [Game.card?_modifyCard_self, Game.card?_modifyCard_self]
    exact congrArg (Option.map _ <| Option.map _ ·) found
  held := by
    change ((g.modifyPlayer i.controller fun p =>
      { p with board := p.board.place slot c }).player i.controller).board.get? slot = _
    rw [Game.player_modifyPlayer_self seated]
    exact Board.get?_place_self _ c free
  others d other :=
    .trans (.trans (.place other free) (.modifyCard_of_ne other.symm _))
      (.modifyCard_of_ne other.symm _)

end TookSlot

theorem CastEnds.later {u : AbilityUse} {i : CardInstance} {g h k : Game} (ends : CastEnds u i g h)
    (alike : LieAlike h k) : CastEnds u i g k := by
  cases ends with
  | moved off stays => exact .moved off (stays.trans (alike.stays _))
  | spell stacked spell laid => exact .spell stacked spell (laid.later alike)
  | field stacked permanent wanted free took =>
    exact .field stacked permanent wanted free (took.later alike)
  | firstFree stacked permanent taken first took =>
    exact .firstFree stacked permanent taken first (took.later alike)
  | full stacked permanent full laid => exact .full stacked permanent full (laid.later alike)

namespace Act

variable {c : CardId} {i : CardInstance} {g : Game} {F : EngineError → Game → Prop}

theorem run_takeOut_of_stacked (stacked : i.zone = .stack) (g : Game) :
    StateT.run (ExceptT.run (takeOut c i)) g = (.ok (), g) := by
  have off : i.zone ≠ .board := by rw [stacked]; decide
  rw [takeOut, if_neg off, stacked]
  change (Except.ok (), g.modifyPlayer i.owner fun s => s) = _
  rw [Game.modifyPlayer_id]

theorem ends_takeOut_of_stacked (stacked : i.zone = .stack) (g : Game) :
    Ends (fun k => k = g) (takeOut c i) (fun _ k => k = g) F := by
  rintro k rfl
  rw [run_takeOut_of_stacked stacked]

theorem ends_moveCard_laidDown (agree : ZonesAgree g) (found : g.card? c = some i)
    (stacked : i.zone = .stack) :
    Ends (fun k => k = g) (moveCard c .pile .top) (fun _ h => LaidDown c i g h) F := by
  refine (ends_readCard fun k same => same ▸ found).bind fun j => .given fun same => ?_
  subst same
  have unslotted : Ends (fun k => k = g) (slotFor c j .pile .top) (fun slot k => slot = none ∧
      k = g) F := by
    rw [slotFor, if_pos nofun]
    exact ends_pure fun k same => ⟨rfl, same⟩
  refine unslotted.bind fun slot => .given fun none => ?_
  subst none
  refine (ends_takeOut_of_stacked stacked g).bind fun _ => ?_
  have put : Ends (fun k => k = g) (putInto c j .pile .top none)
      (fun _ h => LaidDown c j g h) F := by
    rintro k rfl
    exact LaidDown.of_insert ((agree c).housed j found).seated found
  exact put.bind fun _ => ends_pure fun _ laid => laid

theorem ends_moveCard_tookSlot (agree : ZonesAgree g) (found : g.card? c = some i)
    (stacked : i.zone = .stack) {slot : Nat} (free : (g.player i.controller).board.isFree slot) :
    Ends (fun k => k = g) (moveCard c .board (.index slot))
      (fun _ h => TookSlot c i slot g h) F := by
  have housed := (agree c).housed i found
  refine (ends_readCard fun k same => same ▸ found).bind fun j => .given fun same => ?_
  subst same
  have off : j.zone ≠ .board := by rw [stacked]; decide
  have slotted : Ends (fun k => k = g) (slotFor c j .board (.index slot))
      (fun chosen k => chosen = some slot ∧ k = g) F := by
    rw [slotFor, if_neg (not_not_intro rfl), if_neg off]
    refine ends_readGiven.bind fun known => .given fun same => ?_
    subst same
    dsimp only
    rw [if_pos free]
    exact ends_pure fun k same => ⟨rfl, same⟩
  refine slotted.bind fun chosen => .given fun same => ?_
  subst same
  refine (ends_takeOut_of_stacked stacked g).bind fun _ => ?_
  have put : Ends (fun k => k = g) (putInto c j .board (.index slot) (some slot))
      (fun _ h => TookSlot c j slot g h) F := by
    rintro k rfl
    exact TookSlot.of_place (housed.controlled ▸ housed.seated) found free
  refine put.bind fun _ => ?_
  rw [if_pos rfl]
  exact ends_lift fun h took => took.later (.emit _ _ h)

theorem ends_finishCast {u : AbilityUse} (agree : ZonesAgree g)
    (found : g.card? u.source = some i) :
    Ends (fun k => k = g) (finishCast u) (fun _ h => CastEnds u i g h) fun _ _ => False := by
  -- the news that the card was played is told last in every case
  have played : ∀ {Q : Game → Prop}, (∀ h, Q h → CastEnds u i g h) →
      Ends Q (liftM (Step.emit .play (.card u.source)) : Act Unit) (fun _ h => CastEnds u i g h)
        fun _ _ => False := fun ends => ends_lift fun h start => (ends h start).later (.emit _ _ h)
  refine (ends_readCard fun k same => same ▸ found).bind fun j => .given fun same => ?_
  subst same
  split
  · next stacked =>
    split
    · next permanent =>
      have permanent : j.card.isSpell = false := by simpa [CardInstance.isPermanent] using permanent
      refine ends_readGiven.bind fun known => .given fun same => ?_
      subst same
      dsimp only
      split
      · next slot chosen =>
        rcases Option.or_eq_some_iff.1 chosen with wanted | ⟨taken, first⟩
        · obtain ⟨wanted, free⟩ := Option.filter_eq_some_iff.1 wanted
          exact (ends_moveCard_tookSlot agree found stacked free).bind fun _ =>
            played fun h took => .field stacked permanent wanted free took
        · have free := Board.isFree_of_firstFree? _ first
          exact (ends_moveCard_tookSlot agree found stacked free).bind fun _ => played fun h took =>
            .firstFree stacked permanent (Option.filter_eq_none_iff.1 taken) first took
      · next none =>
        have full := (Option.or_eq_none_iff.1 none).2
        have told : Ends (fun k => k = known)
          (liftM (Step.notice (.noFreeSlot u.source)) : Act Unit)
            (fun _ k => k = known.record (.noticed (.noFreeSlot u.source))) fun _ _ => False :=
          ends_lift fun k same => same ▸ rfl
        have recorded : ZonesAgree (known.record (.noticed (.noFreeSlot u.source))) :=
          agree.of_frame rfl rfl
        have stayed : ∀ d, Stays d known (known.record (.noticed (.noFreeSlot u.source))) :=
          .of_frame rfl rfl
        exact told.bind fun _ => (ends_moveCard_laidDown recorded found stacked).bind fun _ =>
          played fun h laid => .full stacked permanent full
            ⟨laid.record, laid.onTop, fun d other => (stayed d).trans (laid.others d other)⟩
    · next spell =>
      have spell : j.card.isSpell = true := by simpa [CardInstance.isPermanent] using spell
      exact (ends_moveCard_laidDown agree found stacked).bind fun _ =>
        played fun h laid => .spell stacked spell laid
  · next off => exact played fun h same => .moved off (same ▸ .refl _ _)

theorem keeps_resolveEffects_template (u : AbilityUse) (c : CardId) (card : Card) :
    Keeps (fun g => ∃ i, g.card? c = some i ∧ i.card = card) (resolveEffects u) := by
  have blind : BlindToTalk fun g => ∃ i, g.card? c = some i ∧ i.card = card :=
    fun _ _ _ start => start
  have k : KeptByEffects (fun _ _ => True) fun g => ∃ i, g.card? c = some i ∧ i.card = card := by
    refine .of_templates blind.saying (fun kind subject g start => ?_) (fun _ _ _ _ start => start)
      (fun template g d ⟨i, found, printed⟩ =>
        ?_) fun owner stats kinds subtypes g ⟨i, found, printed⟩ => ?_
    · rw [Game.card?, Step.emit_cards]
      exact start
    · by_cases same : d = c
      · subst same
        exact ⟨_, (g.card?_modifyCard_self d _).trans (congrArg _ found),
          (template i).trans printed⟩
      · exact ⟨i, (g.card?_modifyCard_of_ne same _).trans found, printed⟩
    · have earlier : c.index < g.cards.size := (Array.getElem?_eq_some_iff.1 found).1
      refine ⟨i, ?_, printed⟩
      change (g.cards.push _)[c.index]? = some i
      rw [Array.getElem?_push, if_neg (Nat.ne_of_lt earlier)]
      exact found
  exact k.keeps_resolveEffects fun _ _ => trivial

end Act

theorem Act.run_resolveUse_cast {u : AbilityUse} (cast : u.kind = .cast) {g h k : Game}
    {result : Except EngineError AbilityUse}
    (effects : StateT.run (ExceptT.run (resolveEffects u)) { g with resolving := some u.source } =
      (result, h))
    (finished : StateT.run (ExceptT.run (finishCast u)) h = (.ok (), k)) :
    StateT.run (ExceptT.run (resolveUse u)) g =
      (result.map fun _ => (), { k with resolving := g.resolving }) := by
  rw [resolveUse, run_onBehalfOf, run_attempt_bind, effects, if_pos cast, run_bind_of_ok finished]
  cases result <;> rfl

structure CastResolves (u : AbilityUse) (card : Card) (g : Game) : Prop where
  /-- Resolving fails when one of the effects does, and with its error. -/
  outcome : (StateT.run (ExceptT.run (Act.resolveUse u)) g).1 =
    (StateT.run (ExceptT.run (Act.resolveEffects u))
      { g with resolving := some u.source }).1.map fun _ => ()
  /-- Either way the cast is brought to an end, from what the effects left. -/
  ends : ∃ i, (StateT.run (ExceptT.run (Act.resolveEffects u))
      { g with resolving := some u.source }).2.card? u.source = some i ∧ i.card = card ∧
    CastEnds u i (StateT.run (ExceptT.run (Act.resolveEffects u))
      { g with resolving := some u.source }).2
      (StateT.run (ExceptT.run (Act.resolveUse u)) g).2
  offStack : ∀ i, (StateT.run (ExceptT.run (Act.resolveUse u)) g).2.card? u.source = some i →
    i.zone ≠ .stack

theorem ZonesAgree.cast_ends {g : Game} (agree : ZonesAgree g) {u : AbilityUse}
    (cast : u.kind = .cast)
    {i : CardInstance} (found : g.card? u.source = some i) : CastResolves u i.card g := by
  have kept :=
    keptByChanges_zonesAgree.toKeptByEffects.keeps_resolveEffects (u := u) fun _ _ => trivial
  have settled := kept { g with resolving := some u.source } (agree.of_frame rfl rfl)
  have known := Act.keeps_resolveEffects_template u u.source i.card
    { g with resolving := some u.source } ⟨i, found, rfl⟩
  cases effects : StateT.run (ExceptT.run (Act.resolveEffects u))
    { g with resolving := some u.source } with
  | mk result h =>
    rw [effects] at settled known
    obtain ⟨j, left, printed⟩ := known
    obtain ⟨_, k, finished, ends⟩ := (Act.ends_finishCast settled left).succeeds rfl
    have resolved := Act.run_resolveUse_cast cast effects finished
    have brought : CastEnds u j h { k with resolving := g.resolving } :=
      ends.later (.of_frame rfl rfl)
    refine ⟨by rw [resolved, effects], ⟨j, ?_⟩, fun l after => ?_⟩
    · rw [resolved, effects]
      exact ⟨left, printed, brought⟩
    · rw [resolved] at after
      exact brought.offStack left after

/-- In every game that can come about, with whatever is on the stack by then, a cast use that
resolves takes its card off the stack, whether or not its effects fail: a card that they left there
goes to the pile of its owner when it is a spell, and otherwise to the slot asked for, the first
free slot, or the pile. -/
theorem Reached.castResolves {g : Game} (reached : Reached g) (stack : PriorityStack)
    {u : AbilityUse}
    (cast : u.kind = .cast) {i : CardInstance} (found : g.card? u.source = some i) :
    CastResolves u i.card { g with stack := stack } :=
  (ZonesAgree.of_frame (h := { g with stack := stack }) (.of_reached reached) rfl rfl).cast_ends
    cast found

def Card.rift : Card :=
  ((blank "Rift").withKind ⟨.spell, false⟩).withAbility (.composed ⟨[.player none false
    [.shuffle (some [.filter ⟨none, [], none, none, []⟩]) [.board]]]⟩)

/-- The board has no room for the second squire, so that the rift fails; it is on the pile all the
same. -/
theorem castResolves_rift :
    ∃ start, Game.create { boardSize := 1 } [⟨[.rift, .blank "Squire", .blank "Squire"], .pass⟩,
        ⟨[], .pass⟩] = .ok start ∧
      Grammar.parse "Rift\nSpell\nShuffle cards into your board." = .ok .rift ∧
      let g := Operation.performAll start [.draw ⟨0⟩ 3, .enterPhase .play, .cast ⟨0⟩ ⟨0⟩ none]
      let popped := { g with stack := g.stack.pop.2 }
      ∃ u i, g.stack.pop.1 = some u ∧ u.kind = .cast ∧ g.card? u.source = some i ∧ i.zone = .stack ∧
        CastResolves u i.card popped ∧
        (StateT.run (ExceptT.run (Act.resolveUse u)) popped).1.isOk = false ∧
        ((StateT.run (ExceptT.run (Act.resolveUse u)) popped).2.card? u.source).map (·.zone) =
          some .pile := by
  refine ⟨_, rfl, by decide +kernel, (PriorityStack.pop _).1.get (by decide +kernel),
    (Game.card? _ _).get (by decide +kernel), (Option.some_get _).symm, by decide +kernel,
    (Option.some_get _).symm, by decide +kernel, ?_, by decide +kernel, by decide +kernel⟩
  exact Reached.castResolves (reached_performAll { boardSize := 1 }
    [⟨[.rift, .blank "Squire", .blank "Squire"], .pass⟩, ⟨[], .pass⟩] rfl _) _ (by decide +kernel)
    (Option.some_get _).symm

end CardGame
