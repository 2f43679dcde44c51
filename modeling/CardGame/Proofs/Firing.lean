import CardGame.Proofs.Targeting

/-!
Which triggered abilities an event fires. They are looked at one after the other, by seat, slot and
text, while those before them are on the stack already. A use that was just fired comes from a card
on a board and has no targets, and a search meets such a card on the board before it meets it on the
stack; so what an ability waits for is judged as it was when firing began.
-/

namespace CardGame

structure Watch where
  card : CardId
  controller : PlayerId
  ability : Triggered

namespace Watch

/-- The use as which an ability looks at an event. -/
def offered (w : Watch) (kind : EventKind) (subject : ObjectRef) : AbilityUse :=
  { AbilityUse.fresh ⟨0⟩ .triggered w.card w.controller with
    event := kind, subject := some subject }

def use (w : Watch) (kind : EventKind) (subject : ObjectRef) (id : UseId) : AbilityUse :=
  { w.offered kind subject with id := id, this := [subject] }.prepare w.ability.effect

end Watch

namespace Game

def watchesOf (g : Game) (c : CardId) : List Watch :=
  match g.card? c with
  | none => []
  | some i => if i.flipped then [] else i.card.triggered.map (⟨c, i.controller, ·⟩)

/-- The triggered abilities that are printed on unflipped cards on boards: by seat, slot and
text. -/
def watches (g : Game) : List Watch :=
  g.boardCards.flatMap g.watchesOf

/-- Whether an event is what an ability waits for. -/
def rouses (g : Game) (kind : EventKind) (subject : ObjectRef) (w : Watch) : Bool :=
  g.triggerMatches w.ability.trigger (w.offered kind subject) subject

theorem card_of_watchesOf {g : Game} {c : CardId} {w : Watch} (mem : w ∈ g.watchesOf c) :
    w.card = c := by
  rw [watchesOf] at mem
  split at mem
  · exact nomatch mem
  · split at mem
    · exact nomatch mem
    · obtain ⟨t, -, rfl⟩ := List.mem_map.1 mem
      rfl

end Game

structure Watch.Fires (kind : EventKind) (subject : ObjectRef) (w : Watch) (u : AbilityUse) :
    Prop where
  triggered : u.kind = .triggered
  source : u.source = w.card
  controller : u.controller = w.controller
  bound : u.this = [subject]
  event : u.event = kind
  about : u.subject = some subject
  untargeted : u.targeting = []
  effects : u.effects = (w.use kind subject u.id).effects

namespace SameSights

variable {g h : Game}

theorem triggerMatches (same : SameSights g h) (turn : h.turn = g.turn) (t : Trigger)
    (u : AbilityUse)
    (subject : ObjectRef) : h.triggerMatches t u subject = g.triggerMatches t u subject := by
  have holds : h.triggerHolds t u subject = g.triggerHolds t u subject := by
    unfold Game.triggerHolds
    simp only [turn, funext same.card?, funext (same.cardHolds u .bound _), same.playerHolds,
      funext (same.comparisonHolds u .bound _)]
  rw [Game.triggerMatches, Game.triggerMatches, holds]

end SameSights

def Player.shelved (s : Player) : List CardId :=
  s.board.cards ++ (s.hand.cards ++ (s.pile.cards ++ s.deck.cards))

theorem Game.searchedCards_none (g : Game) :
    g.searchedCards none = g.players.toList.flatMap fun (p, s) =>
    s.shelved ++ (g.stack.entries.map AbilityUse.source).filter fun c =>
      (g.card? c).any (·.owner == p) := by
  refine congrArg (g.players.toList.flatMap ·) (funext fun (p, s) => ?_)
  simp [Zone.searchOrder, Game.cardsIn, Player.shelved]

theorem Game.boardCards_eq (g : Game) :
    g.boardCards = (List.range g.players.count).flatMap fun k => (g.player ⟨k⟩).board.cards := by
  rw [boardCards, toList_players, List.flatMap_map]

namespace ZonesAgree

variable {g : Game} (agree : ZonesAgree g)
include agree

theorem mem_board_of_boardCards {c : CardId} {i : CardInstance} (boarded : c ∈ g.boardCards)
    (found : g.card? c = some i) : i.zone = .board ∧ c ∈ (g.player i.owner).board.cards := by
  obtain ⟨⟨p, s⟩, seat, held⟩ := List.mem_flatMap.1 boarded
  obtain rfl := Game.player_of_mem_toList seat
  obtain ⟨rfl, zone⟩ := ((agree c).housed i found).eq_of_holds (z := .board) held
  exact ⟨zone.symm, held⟩

theorem nodup_boardCards : g.boardCards.Nodup := by
  rw [Game.boardCards_eq, List.nodup_flatMap]
  refine ⟨fun k _ => agree.nodup_holds ⟨k⟩ .board,
    List.nodup_range.imp fun other c here there => ?_⟩
  obtain ⟨i, found⟩ := Option.isSome_iff_exists.1 (agree.known_of_holds (z := .board) here)
  have housed := (agree c).housed i found
  have one := (housed.eq_of_holds (z := .board) here).1
  have two := (housed.eq_of_holds (z := .board) there).1
  exact other (congrArg PlayerId.seat (one.trans two.symm))

theorem sights_push {u : AbilityUse} (boarded : u.source ∈ g.boardCards)
    (untargeted : u.targeting = []) :
    SameSights g (g.modifyStack (·.push u)) := by
  refine ⟨rfl, ?_, fun c => ?_⟩
  · rw [Game.searchedCards_none, Game.searchedCards_none]
    refine eraseDups_flatMap_congr fun ⟨p, s⟩ seat => ?_
    obtain rfl : g.player p = s := Game.player_of_mem_toList seat
    change ((g.player p).shelved ++ ((g.stack.entries ++ [u]).map AbilityUse.source).filter fun c =>
      (g.card? c).any (·.owner == p)).eraseDups = _
    rw [List.map_append, List.filter_append, ← List.append_assoc]
    refine eraseDups_append_of_subset fun c mem =>
      List.mem_append_left _ (List.mem_append_left _ ?_)
    obtain ⟨listed, owned⟩ := List.mem_filter.1 mem
    obtain rfl := List.mem_singleton.1 listed
    obtain ⟨i, found, own⟩ := (Option.any_eq_true _ _).1 owned
    obtain rfl : i.owner = p := beq_iff_eq.1 own
    exact (agree.mem_board_of_boardCards boarded found).2
  · change ((g.stack.entries ++ [u]).filter (·.source == c)).flatMap (·.targeting) = _
    rw [List.filter_append, List.flatMap_append]
    refine (congrArg (_ ++ ·) ?_).trans (List.append_nil _)
    rw [List.filter_singleton]
    cases u.source == c with
    | false => rfl
    | true => exact (List.flatMap_singleton ..).trans untargeted

end ZonesAgree

namespace Step

variable {announce : Announce}

theorem run_fire {w : Watch} (untargeted : w.ability.effect.hasTarget = false) (kind : EventKind)
    (subject : ObjectRef) (g : Game) :
    StateT.run (fire announce kind subject w.card w.controller w.ability) g =
      ((), if g.rouses kind subject w then
        { g with nextUse := g.nextUse + 1 }.modifyStack
        (·.push (w.use kind subject ⟨g.nextUse⟩)) else g) := by
  let known := { g with nextUse := g.nextUse + 1 }
  have picked : StateT.run (pickUse announce (w.use kind subject ⟨g.nextUse⟩)) known =
      (w.use kind subject ⟨g.nextUse⟩, known) :=
    run_pickUse_untargeted announce untargeted rfl known
  change StateT.run (if g.rouses kind subject w then _ else _) g = _
  split
  · change StateT.run (do
      let u ← pickUse announce (w.use kind subject ⟨g.nextUse⟩)
      modify (·.modifyStack (·.push u))) known = _
    rw [StateT.run_bind, picked]
    rfl
  · rfl

end Step

theorem AbilityUse.targeting_prepareClauses (u : AbilityUse) (es : List Effect) :
    (u.prepareClauses es).targeting = u.targeting := by
  induction es generalizing u with
  | nil => rfl
  | cons e es ih => exact ih (u.prepareClause e)

theorem Watch.fires_use (w : Watch) (kind : EventKind) (subject : ObjectRef) (id : UseId) :
    w.Fires kind subject (w.use kind subject id) := by
  have becomes := AbilityUse.prepareClauses_becomes
    { w.offered kind subject with id := id, this := [subject] } w.ability.effect.effects
  have number : (w.use kind subject id).id = id := becomes.id_eq
  exact
    { triggered := becomes.kind_eq, source := becomes.source_eq, controller := becomes.controller_eq
      bound := congrArg AbilityUse.this becomes, event := congrArg AbilityUse.event becomes
      about := congrArg AbilityUse.subject becomes
      untargeted := AbilityUse.targeting_prepareClauses _ _
      effects := by rw [number] }

/-- What has come of an event once some abilities have been looked at: those that it rouses are on
the stack, and no match sees them there. -/
structure Answered (kind : EventKind) (subject : ObjectRef) (ws : List Watch) (g h : Game) :
    Prop where
  sights : SameSights g h
  players : h.players = g.players
  turn : h.turn = g.turn
  fired : ∃ fired, h.stack.entries = g.stack.entries ++ fired ∧
    List.Forall₂ (Watch.Fires kind subject) (ws.filter (g.rouses kind subject)) fired

namespace Answered

variable {kind : EventKind} {subject : ObjectRef} {g h : Game}

theorem refl (kind : EventKind) (subject : ObjectRef) (g : Game) : Answered kind subject [] g g :=
  ⟨.refl g, rfl, rfl, [], (List.append_nil _).symm, .nil⟩

theorem agree {ws : List Watch} (answered : Answered kind subject ws g h) (agree : ZonesAgree g) :
    ZonesAgree h :=
  agree.of_frame answered.players answered.sights.cards

theorem boardCards {ws : List Watch} (answered : Answered kind subject ws g h) :
    h.boardCards = g.boardCards := by
  rw [Game.boardCards, Game.boardCards, answered.players]

theorem fire (announce : Announce) {ws : List Watch} (answered : Answered kind subject ws g h)
    (agree : ZonesAgree g) {w : Watch} (boarded : w.card ∈ g.boardCards)
    (untargeted : w.ability.effect.hasTarget = false) :
    Answered kind subject (ws ++ [w]) g
      (StateT.run (Step.fire announce kind subject w.card w.controller w.ability) h).2 := by
  obtain ⟨fired, entries, fires⟩ := answered.fired
  have judged : h.rouses kind subject w = g.rouses kind subject w :=
    answered.sights.triggerMatches answered.turn _ _ _
  rw [Step.run_fire untargeted, judged]
  by_cases roused : g.rouses kind subject w
  · rw [if_pos roused]
    have made := w.fires_use kind subject ⟨h.nextUse⟩
    have numbered : SameSights h { h with nextUse := h.nextUse + 1 } := ⟨rfl, rfl, fun _ => rfl⟩
    have agreed : ZonesAgree { h with nextUse := h.nextUse + 1 } :=
      (answered.agree agree).of_frame rfl rfl
    have pushed := agreed.sights_push (u := w.use kind subject ⟨h.nextUse⟩)
      (made.source ▸ answered.boardCards ▸ boarded) made.untargeted
    refine ⟨answered.sights.trans (numbered.trans pushed), answered.players, answered.turn,
      fired ++ [w.use kind subject ⟨h.nextUse⟩], ?_, ?_⟩
    · rw [← List.append_assoc, ← entries]
      rfl
    · rw [List.filter_append, List.filter_cons_of_pos roused]
      exact List.rel_append fires (.cons made .nil)
  · rw [if_neg roused]
    refine ⟨answered.sights, answered.players, answered.turn, fired, entries, ?_⟩
    rw [List.filter_append, List.filter_cons_of_neg roused, List.filter_nil, List.append_nil]
    exact fires

theorem forM_fire (announce : Announce) {ws more : List Watch}
    (answered : Answered kind subject ws g h)
    (agree : ZonesAgree g) (boarded : ∀ w ∈ more, w.card ∈ g.boardCards)
    (untargeted : ∀ w ∈ more, w.ability.effect.hasTarget = false) :
    Answered kind subject (ws ++ more) g (StateT.run
      (more.forM fun w => Step.fire announce kind subject w.card w.controller w.ability) h).2 := by
  induction more generalizing ws h with
  | nil =>
    rw [List.append_nil]
    exact answered
  | cons w rest ih =>
    have first := answered.fire announce agree (boarded w (.head _)) (untargeted w (.head _))
    have later := ih first (fun v mem => boarded v (.tail _ mem)) fun v mem =>
      untargeted v (.tail _ mem)
    rw [List.append_assoc] at later
    exact later

theorem run_fireCard (announce : Announce) {c : CardId} (agree : ZonesAgree h)
    (boarded : c ∈ h.boardCards) :
    StateT.run (Step.fireCard announce kind subject c) h = StateT.run
      ((h.watchesOf c).forM fun w => Step.fire announce kind subject w.card w.controller
        w.ability) h := by
  have read : ∀ next : Game → Step Unit, StateT.run (get >>= next) h = StateT.run (next h) h :=
    fun _ => rfl
  rw [Step.fireCard, read, Game.watchesOf]
  cases found : h.card? c with
  | none => rfl
  | some i =>
    have zone := (agree.mem_board_of_boardCards boarded found).1
    cases flipped : i.flipped with
    | true => simp [flipped]
    | false => simp [zone, flipped, List.forM_map]

theorem fireCard (announce : Announce) {ws : List Watch} (answered : Answered kind subject ws g h)
    (agree : ZonesAgree g) {c : CardId} (boarded : c ∈ g.boardCards)
    (untargeted : ∀ w ∈ g.watchesOf c, w.ability.effect.hasTarget = false) :
    Answered kind subject (ws ++ g.watchesOf c) g
      (StateT.run (Step.fireCard announce kind subject c) h).2 := by
  have same : h.watchesOf c = g.watchesOf c := by
    rw [Game.watchesOf, Game.watchesOf, answered.sights.card?]
  rw [run_fireCard announce (answered.agree agree) (answered.boardCards ▸ boarded), same]
  exact answered.forM_fire announce agree (fun w mem => (Game.card_of_watchesOf mem).symm ▸ boarded)
    untargeted

theorem forM_fireCard (announce : Announce) {ws : List Watch} {cards : List CardId}
    (answered : Answered kind subject ws g h) (agree : ZonesAgree g)
    (boarded : ∀ c ∈ cards, c ∈ g.boardCards)
    (untargeted : ∀ c ∈ cards, ∀ w ∈ g.watchesOf c, w.ability.effect.hasTarget = false) :
    Answered kind subject (ws ++ cards.flatMap g.watchesOf) g
      (StateT.run (cards.forM (Step.fireCard announce kind subject)) h).2 := by
  induction cards generalizing ws h with
  | nil =>
    rw [List.flatMap_nil, List.append_nil]
    exact answered
  | cons c rest ih =>
    have first := answered.fireCard announce agree (boarded c (.head _)) (untargeted c (.head _))
    have later := ih first (fun d mem => boarded d (.tail _ mem)) fun d mem =>
      untargeted d (.tail _ mem)
    rw [List.append_assoc] at later
    exact later

theorem fireTriggers (announce : Announce) (kind : EventKind) (subject : ObjectRef)
    (agree : ZonesAgree g) (untargeted : ∀ w ∈ g.watches, w.ability.effect.hasTarget = false) :
    Answered kind subject g.watches g (StateT.run (Step.fireTriggers announce kind subject) g).2 :=
  (refl kind subject g).forM_fireCard announce agree (fun _ mem => mem) fun c mem w listed =>
    untargeted w (List.mem_flatMap.2 ⟨c, mem, listed⟩)

end Answered

namespace Step

variable {g : Game} (kind : EventKind) (subject : ObjectRef)

theorem noted_stays (c : CardId) : Stays c g (noted kind subject g) := by
  refine Stays.of_players (g := g) (h := noted kind subject g)
    (count_losersMarked kind subject g.players) (fun p => ?_) rfl c
  rw [player_losersMarked kind subject rfl p]
  exact ⟨funext fun z => by cases z <;> rfl, rfl⟩

theorem watches_noted : (noted kind subject g).watches = g.watches := by
  have boards : (noted kind subject g).boardCards = g.boardCards := by
    rw [Game.boardCards_eq, Game.boardCards_eq]
    have seats : (noted kind subject g).players.count = g.players.count :=
      count_losersMarked kind subject g.players
    rw [seats]
    refine congrArg (List.range g.players.count).flatMap (funext fun k => ?_)
    rw [player_losersMarked kind subject (h := noted kind subject g) rfl ⟨k⟩]
  rw [Game.watches, boards]
  rfl

theorem entries_react (announce : Announce) (source : Option CardId) :
    (StateT.run (react announce kind subject source) g).2.stack.entries =
      (StateT.run (fireTriggers announce kind subject) g).2.stack.entries :=
  keeps_tellObservers_of_handling (P := fun h => h.stack.entries =
    (StateT.run (fireTriggers announce kind subject) g).2.stack.entries)
      (fun _ _ same => same) _ rfl

end Step

theorem ZonesAgree.fires_of_emit {g : Game} (agree : ZonesAgree g)
    (room : g.eventDepth < g.config.maxEventDepth.toNat)
    (untargeted : ∀ w ∈ g.watches, w.ability.effect.hasTarget = false)
    (kind : EventKind) (subject : ObjectRef) :
    ∃ fired, (StateT.run (Step.emit kind subject) g).2.stack.entries = g.stack.entries ++ fired ∧
      List.Forall₂ (Watch.Fires kind subject)
        (g.watches.filter ((Step.noted kind subject g).rouses kind subject)) fired := by
  have same := Step.watches_noted (g := g) kind subject
  have answered := Answered.fireTriggers Step.emit kind subject
    (agree.of_stays (Step.noted_stays kind subject)) (same ▸ untargeted)
  obtain ⟨fired, entries, fires⟩ := answered.fired
  refine ⟨fired, ?_, same ▸ fires⟩
  rw [Step.emit_eq_react kind subject room, Step.entries_react, entries]
  rfl

/-- Emitting an event below the depth cap, when no ability that is printed on an unflipped card on a
board asks for a target, puts one use on the stack for each ability that the event rouses, by seat,
slot and text, and nothing else. What an ability waits for is judged on the game in which firing
begins. -/
theorem Reached.emit_fires {g : Game} (reached : Reached g)
    (room : g.eventDepth < g.config.maxEventDepth.toNat)
    (untargeted : ∀ w ∈ g.watches, w.ability.effect.hasTarget = false)
    (kind : EventKind) (subject : ObjectRef) :
    g.boardCards.Nodup ∧ ∃ fired,
      (StateT.run (Step.emit kind subject) g).2.stack.entries = g.stack.entries ++ fired ∧
      List.Forall₂ (Watch.Fires kind subject)
        (g.watches.filter ((Step.noted kind subject g).rouses kind subject)) fired :=
  have agree := ZonesAgree.of_reached reached
  ⟨agree.nodup_boardCards, agree.fires_of_emit room untargeted kind subject⟩

def Card.herald : Card :=
  let units : CardMatch := [.filter ⟨none, [.kind ⟨.unit, false⟩], none, none, []⟩]
  (((blank "Herald").withKind ⟨.unit, false⟩).withAbility (.triggered
    ⟨.condition (.card units .entersBoard), ⟨[.player none false [.draw .one]]⟩⟩)).withAbility
      (.triggered
      ⟨.condition (.card units .leavesBoard), ⟨[.player none false [.gainLife .one]]⟩⟩)

theorem emit_fires_heralds :
    ∃ start, Game.create {} [⟨[.herald, .herald], .pass⟩, ⟨[], .pass⟩] = .ok start ∧
      let g := Operation.performAll start
        [.draw ⟨0⟩ 2, .enterPhase .play, .cast ⟨0⟩ ⟨0⟩ none, .resolveTop, .resolveTop,
          .cast ⟨0⟩ ⟨1⟩ none, .resolveTop]
      let roused := g.watches.filter
        ((Step.noted .enterBoard (.card ⟨1⟩) g).rouses .enterBoard (.card ⟨1⟩))
      g.watches.map Watch.card = [⟨0⟩, ⟨0⟩, ⟨1⟩, ⟨1⟩] ∧ roused.map Watch.card = [⟨0⟩, ⟨1⟩] ∧
      g.boardCards.Nodup ∧ ∃ fired,
        (StateT.run (Step.emit .enterBoard (.card ⟨1⟩)) g).2.stack.entries =
          g.stack.entries ++ fired ∧
        List.Forall₂ (Watch.Fires .enterBoard (.card ⟨1⟩)) roused fired := by
  refine ⟨_, rfl, by decide +kernel, by decide +kernel, ?_⟩
  exact Reached.emit_fires (reached_performAll {} [⟨[.herald, .herald], .pass⟩, ⟨[], .pass⟩] rfl _)
    (by decide +kernel) (by decide +kernel) .enterBoard (.card ⟨1⟩)

end CardGame
