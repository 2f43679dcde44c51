import CardGame.Proofs.Zones

/-!
What the chronicle tells about the boards. A card is announced when it has entered a board and
before it leaves one, and by nothing else. No emission is under way then, so there is room for the
announcement; and a move that fails, fails before it announces anything. So the boards can be
followed from the events.
-/

namespace CardGame

def Entry.boardEvent? (c : CardId) : Entry → Option EventKind
  | .emitted e => if e.kind.isOfBoard ∧ e.subject = .card c then some e.kind else none
  | _ => none

def Entry.dropsBoardEvent : Entry → Bool
  | .noticed (.eventDropped _ kind _) => kind.isOfBoard
  | _ => false

def Game.boardEvents (g : Game) (c : CardId) : List EventKind :=
  g.chronicle.toList.filterMap (·.boardEvent? c)

/-- The event that comes after so many others: a card enters a board first. -/
def boardEvent (k : Nat) : EventKind :=
  if k % 2 = 0 then .enterBoard else .leaveBoard

/-- So many events, entering and leaving by turns. -/
def boardStory (n : Nat) : List EventKind :=
  (List.range n).map boardEvent

theorem boardStory_succ (n : Nat) : boardStory (n + 1) = boardStory n ++ [boardEvent n] := by
  simp [boardStory, List.range_succ]

theorem getElem?_boardStory {n k : Nat} {kind : EventKind} (told : (boardStory n)[k]? = some kind) :
    kind = boardEvent k := by
  rw [boardStory, List.getElem?_map, Option.map_eq_some_iff] at told
  obtain ⟨j, found, rfl⟩ := told
  rw [(List.getElem?_eq_some_iff.1 found).2.symm, List.getElem_range]

theorem getLast?_boardStory (n : Nat) : (boardStory n).getLast? = some .enterBoard ↔ n % 2 = 1 := by
  cases n with
  | zero => simp [boardStory]
  | succ n =>
    rw [boardStory_succ, List.getLast?_concat, boardEvent]
    split <;> simp <;> omega

structure Told (c : CardId) (events : List EventKind) (g : Game) : Prop where
  events : g.boardEvents c = events
  undropped : ∀ e ∈ g.chronicle.toList, e.dropsBoardEvent = false

namespace Told

variable {c : CardId} {events : List EventKind} {g h : Game}

theorem of_eq (told : Told c events g) (chronicle : h.chronicle = g.chronicle) :
    Told c events h := by
  refine ⟨?_, ?_⟩
  · rw [Game.boardEvents, chronicle]
    exact told.events
  · rw [chronicle]
    exact told.undropped

theorem record (told : Told c events g) {e : Entry} (kept : e.dropsBoardEvent = false) :
    Told c (events ++ (e.boardEvent? c).toList) (g.record e) := by
  refine ⟨?_, fun d mem => ?_⟩
  · rw [← told.events]
    exact g.reading_record (·.boardEvent? c) e
  · rw [Game.record, Array.toList_push, List.mem_append, List.mem_singleton] at mem
    rcases mem with before | rfl
    · exact told.undropped d before
    · exact kept

theorem quietly (told : Told c events g) {e : Entry} (silent : e.boardEvent? c = none)
    (kept : e.dropsBoardEvent = false) : Told c events (g.record e) := by
  have later := told.record kept
  rw [silent, Option.toList_none, List.append_nil] at later
  exact later

theorem said (told : Told c events g) (choosers : Seats Chooser) {e : Entry} (talk : e.isTalk) :
    Told c events ({ g with choosers := choosers }.record e) := by
  have before : Told c events { g with choosers := choosers } := told.of_eq rfl
  cases e with
  | asked p prompt reply => exact before.quietly rfl rfl
  | revealed p cards => exact before.quietly rfl rfl
  | noticed n =>
    cases n with
    | eventDropped depth kind subject => exact nomatch talk
    | _ => exact before.quietly rfl rfl
  | _ => exact nomatch talk

theorem keptByFiring (c : CardId) (events : List EventKind) :
    KeptByFiring (fun _ => True) (Told c events) where
  targeting :=
    (KeptByTalk.of_entries fun _ choosers _ talk told => told.said choosers talk).targeting
  triggered _ _ _ _ := trivial
  numbered _ told := told.of_eq rfl
  pushed _ _ told _ := told.of_eq rfl
  handled _ _ _ told := told.quietly rfl rfl
  target g o told := (told.quietly (e := .emitted ⟨.target, g.resolving, o⟩) rfl rfl).of_eq rfl
  dropped _ _ told := told.quietly rfl rfl
  returned _ told := told.of_eq rfl

theorem emit (told : Told c events g) (room : g.eventDepth < g.config.maxEventDepth.toNat)
    (kind : EventKind) (subject : ObjectRef) :
    Told c (events ++ (Entry.boardEvent? c (.emitted ⟨kind, g.resolving, subject⟩)).toList)
      (StateT.run (Step.emit kind subject) g).2 := by
  have noted := told.record (e := .emitted ⟨kind, g.resolving, subject⟩) rfl
  have k := keptByFiring c (events ++
    (Entry.boardEvent? c (.emitted ⟨kind, g.resolving, subject⟩)).toList)
  rw [Step.emit_eq_react kind subject room]
  exact k.keeps_react k.keeps_target kind subject _ _ (noted.of_eq rfl)

end Told

/-- So many events about a card and a board were told by turns, and no emission is under way. -/
structure Heard (c : CardId) (n : Nat) (g : Game) : Prop extends Told c (boardStory n) g where
  depth : g.eventDepth = 0
  room : 0 < g.config.maxEventDepth.toNat

namespace Heard

variable {c : CardId} {n m : Nat} {g h : Game}

theorem of_eq (heard : Heard c n g) (chronicle : h.chronicle = g.chronicle)
    (depth : h.eventDepth = g.eventDepth) (config : h.config = g.config) : Heard c n h :=
  ⟨heard.toTold.of_eq chronicle, depth.trans heard.depth, config ▸ heard.room⟩

theorem emitted (heard : Heard c n g) {kind : EventKind} {subject : ObjectRef}
    (story : boardStory n ++ (Entry.boardEvent? c (.emitted ⟨kind, g.resolving, subject⟩)).toList =
      boardStory m) : Heard c m (StateT.run (Step.emit kind subject) g).2 := by
  have room : g.eventDepth < g.config.maxEventDepth.toNat := heard.depth ▸ heard.room
  have frame := Step.emit_leaves kind subject room
  refine ⟨story ▸ heard.toTold.emit room kind subject, frame.eventDepth.trans heard.depth, ?_⟩
  rw [frame.config]
  exact heard.room

theorem elsewhere (heard : Heard c n g) {kind : EventKind} {subject : ObjectRef}
    (other : ¬(kind.isOfBoard ∧ subject = .card c)) :
    Heard c n (StateT.run (Step.emit kind subject) g).2 :=
  heard.emitted (by rw [Entry.boardEvent?, if_neg other, Option.toList_none, List.append_nil])

theorem due (heard : Heard c n g) {kind : EventKind} (of : kind.isOfBoard)
    (due : boardEvent n = kind) :
    Heard c (n + 1) (StateT.run (Step.emit kind (.card c)) g).2 :=
  heard.emitted (by rw [Entry.boardEvent?, if_pos ⟨of, rfl⟩, boardStory_succ, due]; rfl)

end Heard

/-- A card is on a board when the last event about it and a board is that it entered one. -/
def Mirrored (c : CardId) (g : Game) : Prop :=
  ∃ n, Heard c n g ∧ ((g.card? c).map (·.zone) = some .board ↔ n % 2 = 1)

namespace Mirrored

variable {c : CardId} {g h : Game}

theorem of_eq (mirrored : Mirrored c g) (chronicle : h.chronicle = g.chronicle)
    (depth : h.eventDepth = g.eventDepth) (config : h.config = g.config)
    (zone : (h.card? c).map (·.zone) = (g.card? c).map (·.zone)) : Mirrored c h := by
  obtain ⟨n, heard, on⟩ := mirrored
  exact ⟨n, heard.of_eq chronicle depth config, zone ▸ on⟩

theorem of_cards (mirrored : Mirrored c g) (chronicle : h.chronicle = g.chronicle)
    (depth : h.eventDepth = g.eventDepth) (config : h.config = g.config)
    (cards : h.cards = g.cards) :
    Mirrored c h :=
  mirrored.of_eq chronicle depth config (by rw [Game.card?, Game.card?, cards])

theorem modifyCard (mirrored : Mirrored c g) {d : CardId} {f : CardInstance → CardInstance}
    (zone : d = c → ∀ i, (f i).zone = i.zone) : Mirrored c (g.modifyCard d f) := by
  refine mirrored.of_eq rfl rfl rfl ?_
  by_cases same : d = c
  · subst same
    rw [Game.card?_modifyCard_self, Option.map_map]
    exact congrArg (Option.map · _) (funext (zone rfl))
  · rw [Game.card?_modifyCard_of_ne _ same]

theorem addCard (mirrored : Mirrored c g) (owner : PlayerId) (template : Card) {z : Zone}
    (off : z ≠ .board) : Mirrored c (StateT.run (Step.addCard owner template z) g).2 := by
  obtain ⟨n, heard, on⟩ := mirrored
  refine ⟨n, heard.of_eq rfl rfl rfl, ?_⟩
  change ((g.cards.push _)[c.index]?).map _ = _ ↔ _
  rw [Array.getElem?_push]
  split
  · next new =>
    have missing : g.card? c = none := Array.getElem?_eq_none (Nat.le_of_eq new.symm)
    rw [missing] at on
    exact iff_of_false (fun same => off (Option.some.inj same)) fun odd => nomatch on.2 odd
  · exact on

theorem talk (c : CardId) : KeptByTalk (Mirrored c) :=
  .of_entries fun _ choosers _ talk ⟨n, heard, on⟩ =>
    ⟨n, ⟨heard.toTold.said choosers talk, heard.depth, heard.room⟩, on⟩

theorem elsewhere {kind : EventKind} {subject : ObjectRef}
    (other : ¬(kind.isOfBoard ∧ subject = .card c)) :
    Step.Keeps (Mirrored c) (Step.emit kind subject) := by
  intro g ⟨n, heard, on⟩
  refine ⟨n, heard.elsewhere other, ?_⟩
  rw [Game.card?, Step.emit_cards]
  exact on

end Mirrored

namespace Act

variable {c d : CardId} {i : CardInstance} {goal : Zone}

theorem keeps_moveCard_other (other : d ≠ c) (goal : Zone) (position : Position) :
    Keeps (Mirrored c) (moveCard d goal position) :=
  keeps_moveCard_of (fun _ => Mirrored.elsewhere fun about => other (ObjectRef.card.inj about.2))
    (fun _ _ _ mirrored => mirrored.of_cards rfl rfl rfl rfl)
    (fun _ _ mirrored => mirrored.modifyCard fun same => absurd same other) position

/-- A card that is off the board, or about to be put on one, has left every board it entered. -/
def Unseated (c : CardId) (g : Game) : Prop :=
  (∃ n, Heard c n g ∧ n % 2 = 0) ∧ (g.card? c).isSome

theorem leads_takeOut_unseated :
    Leads (fun g => Mirrored c g ∧ g.card? c = some i) (takeOut c i) (fun _ => Unseated c)
      (Mirrored c) := by
  unfold takeOut
  split
  · next boarded =>
    have announced : Leads (fun g => Mirrored c g ∧ g.card? c = some i)
        (liftM (Step.emit .leaveBoard (.card c)) : Act Unit)
        (fun _ g => (∃ n, Heard c n g ∧ n % 2 = 0) ∧ g.card? c = some i) (Mirrored c) := by
      refine leads_lift fun g ⟨⟨n, heard, on⟩, found⟩ => ?_
      have odd : n % 2 = 1 := on.1 (by rw [found, Option.map_some, boarded])
      refine ⟨⟨n + 1, heard.due rfl ?_, by omega⟩, ?_⟩
      · rw [boardEvent, if_neg (by omega)]
      · rw [Game.card?, Step.emit_cards]
        exact found
    refine announced.bind fun _ => Leads.bind
      (ends_readCard fun g start => start.2).leads fun j => ?_
    refine leads_modifyThe fun g start => ?_
    obtain ⟨-, ⟨n, heard, even⟩, found⟩ := start
    refine ⟨⟨n, heard.of_eq rfl rfl rfl, even⟩, ?_⟩
    rw [Game.card?_modifyCard_self, Option.isSome_map]
    exact Option.isSome_of_eq_some found
  · next off =>
    refine leads_modifyThe fun g ⟨⟨n, heard, on⟩, found⟩ => ?_
    have even : n % 2 ≠ 1 := fun odd => off (by
      have board := on.2 odd
      rw [found] at board
      exact Option.some.inj board)
    exact ⟨⟨n, heard.of_eq rfl rfl rfl, by omega⟩, Option.isSome_of_eq_some found⟩

theorem leads_putInto_unseated (position : Position) (slot : Option Nat) {E : Game → Prop} :
    Leads (Unseated c) (putInto c i goal position slot)
      (fun _ g => Unseated c g ∧ (g.card? c).map (·.zone) = some goal) E := by
  have recorded : Leads (Unseated c) (modifyThe Game
    (·.modifyCard c fun i => { i with zone := goal }))
      (fun _ g => Unseated c g ∧ (g.card? c).map (·.zone) = some goal) E := by
    refine leads_modifyThe fun g ⟨⟨n, heard, even⟩, known⟩ => ?_
    obtain ⟨j, found⟩ := Option.isSome_iff_exists.1 known
    refine ⟨⟨⟨n, heard.of_eq rfl rfl rfl, even⟩, ?_⟩, ?_⟩
    all_goals
      rw [Game.card?_modifyCard_self, found]
      rfl
  unfold putInto
  cases slot with
  | none =>
    refine Leads.bind (Q := fun _ => Unseated c) (leads_modifyThe fun g start => ?_) fun _ =>
      recorded
    obtain ⟨⟨n, heard, even⟩, known⟩ := start
    exact ⟨⟨n, heard.of_eq rfl rfl rfl, even⟩, known⟩
  | some k =>
    refine Leads.bind (Q := fun _ => Unseated c) (leads_modifyThe fun g start => ?_) fun _ =>
      recorded
    obtain ⟨⟨n, heard, even⟩, known⟩ := start
    refine ⟨⟨n, heard.of_eq rfl rfl rfl, even⟩, ?_⟩
    rw [Game.card?_modifyCard_self, Option.isSome_map]
    exact known

theorem keeps_moveCard_self (c : CardId) (goal : Zone) (position : Position) :
    Keeps (Mirrored c) (moveCard c goal position) := by
  have found : Leads (Mirrored c) (card c) (fun i g => Mirrored c g ∧ g.card? c = some i)
      (Mirrored c) :=
    leads_card (fun g i mirrored found => ⟨mirrored, found⟩) fun _ mirrored => mirrored
  refine (found.bind fun i => ?_).keeps
  have chosen : Leads (fun g => Mirrored c g ∧ g.card? c = some i) (slotFor c i goal position)
      (fun _ g => Mirrored c g ∧ g.card? c = some i) (Mirrored c) :=
    (keeps_slotFor c i goal position).leads.weaken (fun _ _ kept => kept) fun _ kept => kept.1
  refine chosen.bind fun slot => leads_takeOut_unseated.bind fun _ =>
    (leads_putInto_unseated position slot).bind fun _ => ?_
  split
  · next board =>
    refine leads_lift fun g ⟨⟨⟨n, heard, even⟩, _⟩, zone⟩ => ⟨n + 1, heard.due rfl ?_, ?_⟩
    · rw [boardEvent, if_pos even]
    · rw [Game.card?, Step.emit_cards]
      exact iff_of_true (board ▸ zone) (by omega)
  · next elsewhere =>
    refine leads_pure fun g ⟨⟨⟨n, heard, even⟩, _⟩, zone⟩ => ⟨n, heard, ?_⟩
    rw [zone]
    exact iff_of_false (fun same => elsewhere (Option.some.inj same)) (by omega)

theorem keeps_moveCard_mirrored (d : CardId) (goal : Zone) (position : Position) :
    Keeps (Mirrored c) (moveCard d goal position) := by
  by_cases same : d = c
  · exact same ▸ keeps_moveCard_self d goal position
  · exact keeps_moveCard_other same goal position

theorem keeps_createCard_mirrored (owner : PlayerId) (template : Card) (z : Zone) :
    Keeps (Mirrored c) (createCard owner template z) :=
  keeps_createCard_of (fun _ mirrored =>
    mirrored.addCard owner template (z := .stack) nofun) fun d =>
    keeps_moveCard_mirrored d z .bottom

end Act

namespace Mirrored

theorem keptByWrites (c : CardId) : KeptByWrites (Mirrored c) where
  saying := talk c
  announce _ _ plain := Mirrored.elsewhere fun about =>
    EventKind.not_isOfBoard_of_isPlain plain about.1
  lose _ := Mirrored.elsewhere fun about => nomatch about.1
  move := Act.keeps_moveCard_mirrored
  create := Act.keeps_createCard_mirrored
  mark marks _ _ mirrored := mirrored.modifyCard fun _ i => by rw [marks i]
  account _ _ _ mirrored := mirrored.of_cards rfl rfl rfl rfl
  shuffle p z := Step.keeps_shuffleZone_of p z
    (fun _ _ _ mirrored => mirrored.of_cards rfl rfl rfl rfl)
    fun _ _ mirrored => mirrored.of_cards rfl rfl rfl rfl
  random _ _ mirrored := mirrored.of_cards rfl rfl rfl rfl
  resolving _ _ mirrored := mirrored.of_cards rfl rfl rfl rfl

theorem keptByPlay (c : CardId) : KeptByPlay (Mirrored c) :=
  .of_stackless (keptByWrites c)
    (fun _ _ _ mirrored => mirrored.of_cards rfl rfl rfl rfl)
    (fun _ _ mirrored => mirrored.of_cards rfl rfl rfl rfl)
    (fun _ _ mirrored => mirrored.of_cards rfl rfl rfl rfl)
    (fun _ _ mirrored => mirrored.of_cards rfl rfl rfl rfl)
    fun _ mirrored => mirrored.of_cards rfl rfl rfl rfl

theorem create {config : RulesConfig} {entrants : List Entrant} {g : Game}
    (created : Game.create config entrants = .ok g) (room : 0 < config.maxEventDepth.toNat)
    (c : CardId) :
    Mirrored c g := by
  refine Game.create_induction created (fun seats => ?_) fun g owner template _ _ mirrored => ?_
  · exact ⟨0, ⟨⟨rfl, fun _ mem => (nomatch mem)⟩, rfl, room⟩, iff_of_false nofun nofun⟩
  · exact (mirrored.addCard owner template (z := .deck) nofun).of_cards rfl rfl rfl rfl

end Mirrored

structure BoardsTold (g : Game) (c : CardId) : Prop where
  /-- Events about entering and leaving a board come by turns, beginning with an entering. -/
  byTurns : ∀ k kind, (g.boardEvents c)[k]? = some kind →
    kind = if k % 2 = 0 then .enterBoard else .leaveBoard
  record : (∃ i, g.card? c = some i ∧ i.zone = .board) ↔
    (g.boardEvents c).getLast? = some .enterBoard
  board : (∃ p, c ∈ (g.player p).board.cards) ↔ (g.boardEvents c).getLast? = some .enterBoard
  /-- No event about a board was dropped. -/
  undropped : ∀ e ∈ g.chronicle.toList, e.dropsBoardEvent = false

/-- When emissions may be nested at all, whatever was done to a game since it was created, the
events about a card entering and leaving boards come by turns, the last one tells whether the card
is on a board, and none was dropped. -/
theorem boardsTold {config : RulesConfig} {entrants : List Entrant} {start g : Game}
    (room : 1 ≤ config.maxEventDepth) (created : Game.create config entrants = .ok start)
    (course : ReachedFrom start (fun _ => True) g) (c : CardId) : BoardsTold g c := by
  obtain ⟨n, heard, on⟩ :=
    (Mirrored.keptByPlay c).reachedFrom (Mirrored.create created room c) course
  have agree : ZonesAgree g := ZonesAgree.of_reached ⟨config, entrants, start, created, course⟩
  have told : (g.boardEvents c).getLast? = some .enterBoard ↔ n % 2 = 1 := by
    rw [heard.events]
    exact getLast?_boardStory n
  have recorded : (∃ i, g.card? c = some i ∧ i.zone = .board) ↔
      (g.boardEvents c).getLast? = some .enterBoard := by
    rw [told, ← on, Option.map_eq_some_iff]
  refine ⟨fun k kind found => ?_, recorded, ?_, heard.undropped⟩
  · rw [heard.events] at found
    exact getElem?_boardStory found
  · exact (agree.holds_iff (z := .board) nofun c).trans recorded

def Card.zealot : Card :=
  ((blank "Zealot").withKind ⟨.unit, false⟩).withAbility (.triggered
    ⟨.condition (.card [.filter ⟨none, [.kind ⟨.unit, false⟩], none, none, []⟩] .entersBoard),
      ⟨[.player none false
        [.destroy [.filter ⟨some .target, [.kind ⟨.unit, false⟩], none, none, []⟩]]]⟩⟩)

/-- The unit destroys itself. Without room for nested emissions it is not told that it became a
target, but still that it entered the board and left it. -/
theorem boardsTold_zealot :
    ∃ start, Game.create { maxEventDepth := 1 } [⟨[.zealot], .first⟩, ⟨[], .pass⟩] = .ok start ∧
      let g := Operation.performAll start
        [.draw ⟨0⟩ 1, .enterPhase .play, .cast ⟨0⟩ ⟨0⟩ none, .resolveTop, .resolveTop]
      g.boardEvents ⟨0⟩ = [.enterBoard, .leaveBoard] ∧
        .noticed (.eventDropped 1 .target (.card ⟨0⟩)) ∈ g.chronicle ∧ BoardsTold g ⟨0⟩ := by
  refine ⟨_, rfl, by decide +kernel, by decide +kernel, ?_⟩
  have room : 1 ≤ ({ maxEventDepth := 1 } : RulesConfig).maxEventDepth := by decide
  have created : Game.create { maxEventDepth := 1 } [⟨[.zealot], .first⟩, ⟨[], .pass⟩] =
    .ok _ := rfl
  exact boardsTold room created (.performAll .start _ fun _ _ => trivial) ⟨0⟩

end CardGame
