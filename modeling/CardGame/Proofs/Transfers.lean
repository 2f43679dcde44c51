import CardGame.Proofs.Zones

/-!
Cards that go from one ordered zone of a player to another one of the same player. The move writes
the two zones and the card's record, and the event that tells of it fires triggers, which wait on
the stack. So much is exact also in the midst of an operation: the games there differ from those
between operations by some of the changes that operations are made of, and none of these puts zones
and records at odds or leaves an emission under way.
-/

namespace CardGame

/-- Games in the midst of what is done to them: those that can come about, and those to which
changes lead from one in the midst. -/
inductive Underway : Game → Prop where
  | reached {g : Game} (reached : Reached g) : Underway g
  | aside {g h : Game} (before : Underway g) (frame : h = { g with
      choosers := h.choosers, stack := h.stack, turn := h.turn, resolving := h.resolving,
      observers := h.observers, random := h.random, nextUse := h.nextUse,
      chronicle := h.chronicle }) :
      Underway h
  | account {g : Game} {f : Player → Player} (before : Underway g) (accounts : Accounts f)
      (p : PlayerId) : Underway (g.modifyPlayer p f)
  | accounts {g : Game} {f : Player → Player} (before : Underway g) (accounts : Accounts f) :
      Underway { g with players := g.players.map f }
  | mark {g : Game} {f : CardInstance → CardInstance} (before : Underway g) (marks : Marks f)
      (c : CardId) : Underway (g.modifyCard c f)
  | emit {g : Game} (before : Underway g) (kind : EventKind) (subject : ObjectRef) :
      Underway (Step.leave (Step.emit kind subject) g)
  | move {g : Game} (before : Underway g) (c : CardId) (goal : Zone) (position : Position) :
      Underway (Step.leave (Act.outcome (Act.moveCard c goal position)) g)
  | create {g : Game} (before : Underway g) (owner : PlayerId) (template : Card) (z : Zone) :
      Underway (Step.leave (Act.outcome (Act.createCard owner template z)) g)
  | shuffle {g : Game} (before : Underway g) (p : PlayerId) (z : Zone) :
      Underway (Step.leave (Step.shuffleZone p z) g)

namespace Underway

theorem keptByChanges : KeptByChanges Underway where
  talk _ _ _ before := before.aside rfl
  emit kind subject _ before := before.emit kind subject
  move c goal position _ before := before.move c goal position
  create owner template z _ before := before.create owner template z
  mark marks _ c before := before.mark marks c
  account accounts _ p before := before.account accounts p
  shuffle p z _ before := before.shuffle p z
  random _ _ before := before.aside rfl
  resolving _ _ before := before.aside rfl

variable {P : Game → Prop}

/-- What games that can come about have, and changes keep, games in the midst have too. -/
theorem induction (k : KeptByChanges P) (reached : ∀ g, Reached g → P g)
    (aside : ∀ g choosers stack turn resolving observers random nextUse chronicle, P g → P { g with
      choosers := choosers, stack := stack, turn := turn, resolving := resolving,
      observers := observers, random := random, nextUse := nextUse, chronicle := chronicle })
    (accounts : ∀ {f}, Accounts f → ∀ g, P g → P { g with players := g.players.map f })
    {g : Game} (underway : Underway g) : P g := by
  induction underway with
  | reached come => exact reached _ come
  | aside before frame ih =>
    rw [frame]
    exact aside _ _ _ _ _ _ _ _ _ ih
  | account before keeps p ih => exact k.account keeps _ p ih
  | accounts before keeps ih => exact accounts keeps _ ih
  | mark before marks c ih => exact k.mark marks _ c ih
  | emit before kind subject ih => exact k.emit kind subject _ ih
  | move before c goal position ih => exact k.move c goal position _ ih
  | create before owner template z ih => exact k.create owner template z _ ih
  | shuffle before p z ih => exact k.shuffle p z _ ih

end Underway

theorem ZonesAgree.of_underway {g : Game} (underway : Underway g) : ZonesAgree g :=
  underway.induction keptByChanges_zonesAgree (fun _ => ZonesAgree.of_reached)
    (fun _ _ _ _ _ _ _ _ _ agree => agree.of_frame rfl rfl) keptByPlay_zonesAgree.accounts

theorem Step.emit_eventDepth (kind : EventKind) (subject : ObjectRef) (g : Game) :
    (StateT.run (emit kind subject) g).2.eventDepth = g.eventDepth := by
  rcases emit_cases kind subject g with dropped | frame
  · rw [dropped]
    rfl
  · exact frame.eventDepth

theorem keptByChanges_eventDepth (depth : Nat) : KeptByChanges fun g => g.eventDepth = depth := by
  have emitted (kind : EventKind) (subject : ObjectRef) :
      Step.Keeps (fun g => g.eventDepth = depth) (Step.emit kind subject) :=
    fun g same => (Step.emit_eventDepth kind subject g).trans same
  have moved (c : CardId) (goal : Zone) (position : Position) :
      Act.Keeps (fun g => g.eventDepth = depth) (Act.moveCard c goal position) :=
    Act.keeps_moveCard_of (fun _ => emitted _ _) (fun _ _ _ same => same) (fun _ _ same => same)
      position
  exact
    { talk := fun _ _ _ same => same
      emit := emitted
      move := moved
      create := fun _ _ z => Act.keeps_createCard_of (fun _ same => same) fun c => moved c z .bottom
      mark := fun _ _ _ same => same
      account := fun _ _ _ same => same
      shuffle := fun p z => Step.keeps_shuffleZone_of p z
        (fun _ _ _ same => same) fun _ _ same => same
      random := fun _ _ same => same
      resolving := fun _ _ same => same }

theorem Reached.eventDepth {g : Game} (reached : Reached g) : g.eventDepth = 0 := by
  obtain ⟨config, entrants, start, created, course⟩ := reached
  have k : KeptByPlay fun g => g.eventDepth = 0 :=
    .of_stackless (keptByChanges_eventDepth 0).toKeptByWrites (fun _ _ _ same => same)
      (fun _ _ same => same)
      (fun _ _ same => same) (fun _ _ same => same) fun _ same => same
  refine k.reachedFrom ?_ course
  exact Game.create_induction (P := fun g => g.eventDepth = 0) created (fun _ => rfl)
    fun _ _ _ _ _ same => same

theorem Underway.eventDepth {g : Game} (underway : Underway g) : g.eventDepth = 0 :=
  underway.induction (keptByChanges_eventDepth 0) (fun _ => Reached.eventDepth)
    (fun _ _ _ _ _ _ _ _ _ same => same) fun _ _ same => same

/-- The event that an entry tells of. The targets that are chosen as triggers fire are left
aside. -/
def Entry.event? : Entry → Option GameEvent
  | .emitted e => if e.kind = .target then none else some e
  | _ => none

namespace Game

def events (g : Game) : List GameEvent :=
  g.chronicle.toList.filterMap (·.event?)

/-- What an emission tells: its event, unless it is nested too deep. -/
def announced (g : Game) (kind : EventKind) (subject : ObjectRef) : List GameEvent :=
  if g.eventDepth < g.config.maxEventDepth.toNat then [⟨kind, g.resolving, subject⟩] else []

theorem events_record (g : Game) (e : Entry) : (g.record e).events = g.events ++ e.event?.toList :=
  g.reading_record (·.event?) e

theorem events_talk {g h : Game} {p : PlayerId} (talks : Talks p g h) : h.events = g.events := by
  refine talks.reading fun e question => ?_
  cases e with
  | emitted e => exact question.elim
  | _ => rfl

end Game

theorem keptByFiring_events (told : List GameEvent) :
    KeptByFiring (fun _ => True) fun g => g.events = told :=
  .of_reading (fun _ _ _ _ => rfl) (fun _ _ _ => rfl) (fun _ _ => rfl) (fun _ _ => rfl)
    (fun _ _ => rfl) told

theorem Step.emit_events {kind : EventKind} (untargeted : kind ≠ .target) (subject : ObjectRef)
    (g : Game) :
    (StateT.run (emit kind subject) g).2.events = g.events ++ g.announced kind subject := by
  unfold Game.announced
  split
  · next room =>
    have told : (noted kind subject g).events = g.events ++ [⟨kind, g.resolving, subject⟩] := by
      refine (Game.events_record _ (.emitted ⟨kind, g.resolving, subject⟩)).trans ?_
      rw [Entry.event?, if_neg untargeted]
      rfl
    have k := keptByFiring_events (g.events ++ [⟨kind, g.resolving, subject⟩])
    rw [emit_eq_react kind subject room]
    exact k.keeps_react k.keeps_target kind subject _ _ told
  · next deep =>
    rw [emit_dropped kind subject (Nat.le_of_not_lt deep), List.append_nil]
    exact Game.reading_record_of_none rfl

/-- From one game to another, nothing but players, cards and what was said changed, and no use but
triggered ones came to the stack. -/
structure Aside (g h : Game) : Prop where
  config : h.config = g.config
  seats : h.players.count = g.players.count
  turn : h.turn = g.turn
  resolving : h.resolving = g.resolving
  observers : h.observers = g.observers
  random : h.random = g.random
  eventDepth : h.eventDepth = g.eventDepth
  stack : ∃ fired, (∀ u ∈ fired, u.kind = .triggered) ∧ h.stack = { g.stack with
    entries := g.stack.entries ++ fired, passes := h.stack.passes }

namespace Aside

variable {f g h : Game}

theorem of_eq (config : h.config = g.config) (seats : h.players.count = g.players.count)
    (turn : h.turn = g.turn) (resolving : h.resolving = g.resolving)
    (observers : h.observers = g.observers)
    (random : h.random = g.random) (eventDepth : h.eventDepth = g.eventDepth)
    (stack : h.stack = g.stack) :
    Aside g h :=
  ⟨config, seats, turn, resolving, observers, random, eventDepth, [], nofun, by simp [stack]⟩

theorem trans (first : Aside f g) (next : Aside g h) : Aside f h where
  config := next.config.trans first.config
  seats := next.seats.trans first.seats
  turn := next.turn.trans first.turn
  resolving := next.resolving.trans first.resolving
  observers := next.observers.trans first.observers
  random := next.random.trans first.random
  eventDepth := next.eventDepth.trans first.eventDepth
  stack := by
    obtain ⟨fired, triggered, grown⟩ := first.stack
    obtain ⟨later, triggered', grown'⟩ := next.stack
    refine ⟨fired ++ later, fun u mem =>
      (List.mem_append.1 mem).elim (triggered u) (triggered' u), ?_⟩
    rw [grown', grown, List.append_assoc]

theorem announced (aside : Aside g h) (kind : EventKind) (subject : ObjectRef) :
    h.announced kind subject = g.announced kind subject := by
  rw [Game.announced, Game.announced, aside.eventDepth, aside.config, aside.resolving]

theorem emit (kind : EventKind) (subject : ObjectRef) (g : Game) :
    Aside g (StateT.run (Step.emit kind subject) g).2 := by
  rcases Step.emit_cases kind subject g with dropped | frame
  · rw [dropped]
    exact .of_eq rfl rfl rfl rfl rfl rfl rfl rfl
  · exact ⟨frame.config, frame.seats, frame.turn, frame.resolving, frame.observers, frame.random,
      frame.eventDepth, frame.stack⟩

end Aside

/-- From one game to another, a player came to be as given, some cards came to be in a zone by their
records, and some events were told; nothing else changed but for triggered uses on the stack. -/
structure Handed (p : PlayerId) (s : Player) (cards : List CardId) (goal : Zone)
    (told : List GameEvent) (g h : Game) : Prop extends Aside g h where
  player : h.player p = s
  others : ∀ q, q ≠ p → h.player q = g.player q
  records : ∀ c, h.card? c =
    if c ∈ cards then (g.card? c).map fun i => { i with zone := goal } else g.card? c
  events : h.events = g.events ++ told

namespace Handed

variable {p : PlayerId} {s s' : Player} {cards cards' : List CardId} {goal : Zone}
  {told told' : List GameEvent} {f g h : Game}

theorem of_cards (aside : Aside g h) (player : h.player p = s)
    (others : ∀ q, q ≠ p → h.player q = g.player q)
    (cards : h.cards = g.cards) (events : h.events = g.events ++ told) (goal : Zone) :
    Handed p s [] goal told g h where
  toAside := aside
  player := player
  others := others
  records c := by rw [if_neg List.not_mem_nil, Game.card?, Game.card?, cards]
  events := events

theorem refl (p : PlayerId) (goal : Zone) (g : Game) : Handed p (g.player p) [] goal [] g g :=
  .of_cards (.of_eq rfl rfl rfl rfl rfl rfl rfl rfl) rfl (fun _ _ => rfl) rfl
    (List.append_nil _).symm goal

theorem trans (first : Handed p s cards goal told f g) (next : Handed p s' cards' goal told' g h) :
    Handed p s' (cards ++ cards') goal (told ++ told') f h where
  toAside := first.toAside.trans next.toAside
  player := next.player
  others q other := (next.others q other).trans (first.others q other)
  records c := by
    rw [next.records, first.records]
    by_cases before : c ∈ cards <;> by_cases after : c ∈ cards' <;> simp [before, after]
    cases f.card? c <;> rfl
  events := by rw [next.events, first.events, List.append_assoc]

theorem of_talks {q : PlayerId} (talks : Talks q g h) (p : PlayerId) (goal : Zone) :
    Handed p (g.player p) [] goal [] g h := by
  have player (r : PlayerId) : h.player r = g.player r := by rw [talks.frame]; rfl
  refine .of_cards ?_ (player p) (fun r _ => player r) (by rw [talks.frame]) ?_ goal
  · rw [talks.frame]
    exact .of_eq rfl rfl rfl rfl rfl rfl rfl rfl
  · rw [Game.events_talk talks, List.append_nil]

theorem emit {kind : EventKind} (untargeted : kind ≠ .target) (plain : kind ≠ .lose)
    (subject : ObjectRef) (p : PlayerId) (goal : Zone) (g : Game) :
    Handed p (g.player p) [] goal (g.announced kind subject) g
      (StateT.run (Step.emit kind subject) g).2 := by
  have player (q : PlayerId) : (StateT.run (Step.emit kind subject) g).2.player q = g.player q := by
    rcases Step.emit_cases kind subject g with dropped | frame
    · rw [dropped]
      rfl
    · rw [frame.player q, decide_eq_false fun about => plain about.1, Bool.or_false]
  exact .of_cards (.emit kind subject g) (player p) (fun q _ => player q)
    (Step.emit_cards kind subject g)
    (Step.emit_events untargeted subject g) goal

theorem emit_lose (room : g.eventDepth < g.config.maxEventDepth.toNat) (p : PlayerId)
    (goal : Zone) :
    Handed p { g.player p with lost := true } [] goal [⟨.lose, g.resolving, .player p⟩] g
      (StateT.run (Step.emit .lose (.player p)) g).2 := by
  have frame := Step.emit_leaves .lose (.player p) room
  have untargeted : EventKind.lose ≠ .target := nofun
  refine .of_cards (.emit _ _ g) ?_ (fun q other => ?_) (Step.emit_cards _ _ g) ?_ goal
  · rw [frame.player p, decide_eq_true ⟨rfl, rfl⟩, Bool.or_true]
  · rw [frame.player q, decide_eq_false fun about => other (ObjectRef.player.inj about.2).symm,
      Bool.or_false]
  · rw [Step.emit_events untargeted, Game.announced, if_pos room]

end Handed

def Game.Places (g : Game) (p : PlayerId) (z : Zone) (cards : List CardId) : Prop :=
  ∀ c ∈ cards, ∃ i, g.card? c = some i ∧ i.owner = p ∧ i.zone = z

theorem ZonesAgree.places {g : Game} (agree : ZonesAgree g) (p : PlayerId) (z : Zone) :
    g.Places p z ((g.player p).holds z) := by
  intro c held
  cases found : g.card? c with
  | none => exact absurd held (List.count_eq_zero.1 ((agree c).unknown found p z))
  | some i =>
    obtain ⟨owner, zone⟩ := ((agree c).housed i found).eq_of_holds held
    exact ⟨i, rfl, owner.symm, zone.symm⟩

theorem Handed.places {p q : PlayerId} {s : Player} {cards rest : List CardId} {goal z : Zone}
    {told : List GameEvent} {g h : Game} (handed : Handed p s cards goal told g h)
    (places : g.Places q z rest) (apart : ∀ c ∈ rest, c ∉ cards) : h.Places q z rest := by
  intro c mem
  rw [handed.records, if_neg (apart c mem)]
  exact places c mem

def Game.handOver (g : Game) (p : PlayerId) (c : CardId) (z goal : Zone)
    (position : Position) : Game :=
  ((g.modifyPlayer p (·.modifyPile z (·.remove c))).modifyPlayer p
    (·.modifyPile goal (·.insert c position))).modifyCard c fun i => { i with zone := goal }

def Player.handOver (s : Player) (c : CardId) (z goal : Zone) (position : Position) : Player :=
  (s.modifyPile z (·.remove c)).modifyPile goal (·.insert c position)

theorem Handed.handOver {g : Game} {p : PlayerId} (seated : p.seat < g.players.count) (c : CardId)
    (z goal : Zone) (position : Position) :
    Handed p ((g.player p).handOver c z goal position) [c] goal [] g
      (g.handOver p c z goal position) where
  toAside := by
    refine .of_eq rfl ?_ rfl rfl rfl rfl rfl rfl
    exact (Seats.count_modify _ _ _).trans (Seats.count_modify _ _ _)
  player := by
    have still : p.seat < (g.modifyPlayer p (·.modifyPile z (·.remove c))).players.count :=
      Nat.lt_of_lt_of_eq seated (Seats.count_modify _ _ _).symm
    refine (Game.player_modifyPlayer_self still _).trans ?_
    rw [Game.player_modifyPlayer_self seated]
    rfl
  others q other :=
    (Game.player_modifyPlayer_of_ne _ other.symm _).trans (g.player_modifyPlayer_of_ne other.symm _)
  records d := by
    by_cases same : d = c
    · subst same
      rw [if_pos (List.mem_singleton_self d)]
      exact Game.card?_modifyCard_self _ d _
    · rw [if_neg (by simpa using same)]
      exact Game.card?_modifyCard_of_ne _ (Ne.symm same) _
  events := (List.append_nil _).symm

namespace Act

variable {g : Game} {p : PlayerId} {c : CardId} {z goal : Zone}

theorem run_moveCard_handOver (found : ∃ i, g.card? c = some i ∧ i.owner = p ∧ i.zone = z)
    (ordered : z ≠ .board) (kept : goal ≠ .board) (position : Position) :
    StateT.run (ExceptT.run (moveCard c goal position)) g =
      (.ok (), g.handOver p c z goal position) := by
  obtain ⟨i, found, rfl, rfl⟩ := found
  have slotless : StateT.run (ExceptT.run (slotFor c i goal position)) g = (.ok none, g) := by
    rw [slotFor, if_pos kept]
    rfl
  have taken : StateT.run (ExceptT.run (takeOut c i)) g =
      (.ok (), g.modifyPlayer i.owner (·.modifyPile i.zone (·.remove c))) := by
    rw [takeOut, if_neg ordered]
    rfl
  rw [moveCard, run_bind_of_ok (run_card found), run_bind_of_ok slotless, run_bind_of_ok taken,
    if_neg kept]
  rfl

theorem ends_moveCard_handed (seated : p.seat < g.players.count)
    (found : ∃ i, g.card? c = some i ∧ i.owner = p ∧ i.zone = z) (ordered : z ≠ .board)
    (kept : goal ≠ .board) (position : Position) {F : EngineError → Game → Prop} :
    Ends (fun h => h = g) (moveCard c goal position)
      (fun _ => Handed p ((g.player p).handOver c z goal position) [c] goal [] g) F := by
  rintro h rfl
  rw [run_moveCard_handOver found ordered kept position]
  exact .handOver seated c z goal position

theorem ends_emit_handed {s : Player} {cards : List CardId} {told : List GameEvent}
    {kind : EventKind} (untargeted : kind ≠ .target) (plain : kind ≠ .lose) (subject : ObjectRef)
    {F : EngineError → Game → Prop} :
    Ends (Handed p s cards goal told g) (liftM (Step.emit kind subject))
      (fun _ => Handed p s cards goal (told ++ g.announced kind subject) g) F := by
  refine ends_lift fun h before => ?_
  have after := Handed.emit untargeted plain subject p goal h
  rw [before.player, before.toAside.announced] at after
  exact List.append_nil cards ▸ before.trans after

end Act

end CardGame
