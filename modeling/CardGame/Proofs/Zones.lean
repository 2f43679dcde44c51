import CardGame.Proofs.Reached
import Mathlib.Data.List.Nodup

/-!
Agreement of the zones with the records of the cards. A card's record names a zone and a slot, and
the zones of the players hold the card; both are written in several steps when a card moves. Between
taking a card out and putting it back only that card disagrees, and the emission in the middle of a
move changes neither records nor zones.
-/

namespace CardGame

/-- A card is where its record says, once, and nowhere else. -/
structure Housed (g : Game) (c : CardId) (i : CardInstance) : Prop where
  controlled : i.controller = i.owner
  seated : i.owner.seat < g.players.count
  counted : ∀ p z, ((g.player p).holds z).count c =
    if p = i.owner ∧ z = i.zone ∧ z ≠ .stack then 1 else 0
  slotted : i.slot.isSome ↔ i.zone = .board
  placed : ∀ slot, i.slot = some slot → (g.player i.controller).board.get? slot = some c

/-- A card is in no zone of a player. -/
def Loose (g : Game) (c : CardId) : Prop :=
  ∀ p z, ((g.player p).holds z).count c = 0

/-- A card of the game is where its record says, and any other one is nowhere. -/
structure Settled (g : Game) (c : CardId) : Prop where
  housed : ∀ i, g.card? c = some i → Housed g c i
  unknown : g.card? c = none → Loose g c

def ZonesAgree (g : Game) : Prop :=
  ∀ c, Settled g c

def CardInstance.place (i : CardInstance) : PlayerId × PlayerId × Zone × Option Nat :=
  (i.owner, i.controller, i.zone, i.slot)

/-- From one game to another, a card stayed where it was, and so did its record. -/
structure Stays (c : CardId) (g h : Game) : Prop where
  seats : h.players.count = g.players.count
  counts : ∀ p z, ((h.player p).holds z).count c = ((g.player p).holds z).count c
  slots : ∀ p k, (g.player p).board.get? k = some c → (h.player p).board.get? k = some c
  record : (h.card? c).map (·.place) = (g.card? c).map (·.place)

namespace Stays

variable {c : CardId} {f g h : Game}

theorem refl (c : CardId) (g : Game) : Stays c g g :=
  ⟨rfl, fun _ _ => rfl, fun _ _ held => held, rfl⟩

theorem trans (first : Stays c f g) (next : Stays c g h) : Stays c f h where
  seats := next.seats.trans first.seats
  counts p z := (next.counts p z).trans (first.counts p z)
  slots p k held := next.slots p k (first.slots p k held)
  record := next.record.trans first.record

theorem loose (stays : Stays c g h) (before : Loose g c) : Loose h c :=
  fun p z => (stays.counts p z).trans (before p z)

theorem housed (stays : Stays c g h) {i j : CardInstance} (same : j.place = i.place)
    (before : Housed g c i) : Housed h c j := by
  simp only [CardInstance.place, Prod.mk.injEq] at same
  obtain ⟨owner, controller, zone, slot⟩ := same
  refine ⟨?_, ?_, ?_, ?_, ?_⟩
  · rw [controller, owner]
    exact before.controlled
  · rw [owner, stays.seats]
    exact before.seated
  · intro p z
    rw [stays.counts, owner, zone]
    exact before.counted p z
  · rw [slot, zone]
    exact before.slotted
  · intro k held
    rw [controller]
    exact stays.slots _ _ (before.placed k (slot ▸ held))

theorem settled (stays : Stays c g h) (before : Settled g c) : Settled h c := by
  constructor
  · intro j found
    have record := stays.record
    rw [found] at record
    obtain ⟨i, known, same⟩ := Option.map_eq_some_iff.1 record.symm
    exact stays.housed same.symm (before.housed i known)
  · intro missing
    have record := stays.record
    rw [missing] at record
    exact stays.loose (before.unknown (Option.map_eq_none_iff.1 record.symm))

theorem of_players (seats : h.players.count = g.players.count)
    (alike : ∀ p, (h.player p).holds = (g.player p).holds ∧ (h.player p).board = (g.player p).board)
    (cards : h.cards = g.cards) (c : CardId) : Stays c g h where
  seats := seats
  counts p z := by rw [(alike p).1]
  slots p k held := by rw [(alike p).2]; exact held
  record := by rw [Game.card?, Game.card?, cards]

theorem of_frame (players : h.players = g.players) (cards : h.cards = g.cards) (c : CardId) :
    Stays c g h :=
  of_players (by rw [players]) (fun p => by simp only [Game.player, players, and_self]) cards c

theorem modifyPlayer {p : PlayerId} {f : Player → Player}
    (counts : ∀ z, ((f (g.player p)).holds z).count c = ((g.player p).holds z).count c)
    (slots : ∀ k, (g.player p).board.get? k = some c → (f (g.player p)).board.get? k = some c) :
    Stays c g (g.modifyPlayer p f) where
  seats := Seats.count_modify _ _ _
  counts q z := by
    obtain same | ⟨rfl, changed⟩ := g.player_modifyPlayer p q f
    · rw [same]
    · rw [changed]
      exact counts z
  slots q k held := by
    obtain same | ⟨rfl, changed⟩ := g.player_modifyPlayer p q f
    · rw [same]
      exact held
    · rw [changed]
      exact slots k held
  record := rfl

theorem modifyCard_of_ne {d : CardId} (other : d ≠ c) (f : CardInstance → CardInstance) :
    Stays c g (g.modifyCard d f) where
  seats := rfl
  counts _ _ := rfl
  slots _ _ held := held
  record := by rw [Game.card?_modifyCard_of_ne g other]

theorem modifyCard {f : CardInstance → CardInstance} (same : ∀ i, (f i).place = i.place)
    (d : CardId) : Stays c g (g.modifyCard d f) := by
  by_cases other : d = c
  · subst other
    refine ⟨rfl, fun _ _ => rfl, fun _ _ held => held, ?_⟩
    rw [Game.card?_modifyCard_self]
    cases g.card? d with
    | none => rfl
    | some i => exact congrArg some (same i)
  · exact modifyCard_of_ne other f

theorem place {d : CardId} (other : c ≠ d) {p : PlayerId} {slot : Nat}
    (free : (g.player p).board.isFree slot) :
    Stays c g (g.modifyPlayer p fun s => { s with board := s.board.place slot d }) := by
  refine modifyPlayer (fun z => ?_) fun k held => ?_
  · rw [Player.count_place _ free]
    simp [other.symm]
  · exact Board.get?_place d free held

theorem insert {d : CardId} (other : c ≠ d) {z : Zone} (ordered : z ≠ .board) (p : PlayerId)
    (position : Position) :
    Stays c g (g.modifyPlayer p (·.modifyPile z (·.insert d position))) := by
  refine modifyPlayer (fun y => ?_) fun k held => ?_
  · rw [Player.count_insert _ ordered]
    simp [other.symm]
  · rw [Player.board_modifyPile]
    exact held

end Stays

theorem ZonesAgree.of_stays {g h : Game} (before : ZonesAgree g) (stays : ∀ c, Stays c g h) :
    ZonesAgree h :=
  fun c => (stays c).settled (before c)

theorem ZonesAgree.of_frame {g h : Game} (before : ZonesAgree g) (players : h.players = g.players)
    (cards : h.cards = g.cards) : ZonesAgree h :=
  before.of_stays (Stays.of_frame players cards)

theorem Housed.eq_of_holds {g : Game} {c : CardId} {i : CardInstance} (housed : Housed g c i)
    {p : PlayerId} {z : Zone} (held : c ∈ (g.player p).holds z) : p = i.owner ∧ z = i.zone := by
  have counted := housed.counted p z
  split at counted
  · next same => exact ⟨same.1, same.2.1⟩
  · exact absurd held (List.count_eq_zero.1 counted)

theorem ZonesAgree.nodup_holds {g : Game} (agree : ZonesAgree g) (p : PlayerId) (z : Zone) :
    ((g.player p).holds z).Nodup := by
  refine List.nodup_iff_count_le_one.2 fun c => ?_
  cases found : g.card? c with
  | none => exact Nat.le_trans (Nat.le_of_eq ((agree c).unknown found p z)) (Nat.zero_le 1)
  | some i =>
    rw [((agree c).housed i found).counted]
    split <;> decide

theorem ZonesAgree.holds_iff {g : Game} (agree : ZonesAgree g) {z : Zone} (ordered : z ≠ .stack)
    (c : CardId) : (∃ p, c ∈ (g.player p).holds z) ↔ ∃ i, g.card? c = some i ∧ i.zone = z := by
  constructor
  · rintro ⟨p, held⟩
    cases found : g.card? c with
    | none => exact absurd held (List.count_eq_zero.1 ((agree c).unknown found p z))
    | some i => exact ⟨i, rfl, (((agree c).housed i found).eq_of_holds held).2.symm⟩
  · rintro ⟨i, found, zone⟩
    have counted := ((agree c).housed i found).counted i.owner z
    rw [if_pos ⟨rfl, zone.symm, ordered⟩] at counted
    exact ⟨i.owner, List.count_pos_iff.1 (by omega)⟩

theorem Step.emit_stays (kind : EventKind) (subject : ObjectRef) (g : Game) (c : CardId) :
    Stays c g (StateT.run (emit kind subject) g).2 := by
  rcases emit_cases kind subject g with dropped | frame
  · rw [dropped]
    exact Stays.of_frame (g := g) (h := g.record _) rfl rfl c
  · refine .of_players frame.seats (fun p => ?_) frame.cards c
    rw [frame.player p]
    exact ⟨funext fun z => by cases z <;> rfl, rfl⟩

theorem Step.emit_cards (kind : EventKind) (subject : ObjectRef) (g : Game) :
    (StateT.run (emit kind subject) g).2.cards = g.cards := by
  rcases emit_cases kind subject g with dropped | frame
  · rw [dropped]
    rfl
  · exact frame.cards

/-- The card that moves and the slot that waits for it. -/
structure Bound (c : CardId) (i : CardInstance) (goal : Zone) (slot : Option Nat) (g : Game) :
    Prop where
  others : ∀ d, d ≠ c → Settled g d
  seated : i.owner.seat < g.players.count
  controlled : i.controller = i.owner
  slotted : slot.isSome ↔ goal = .board
  free : ∀ k, slot = some k → i.zone ≠ .board ∧ (g.player i.owner).board.isFree k

structure Leaving (c : CardId) (i : CardInstance) (goal : Zone) (slot : Option Nat)
    (g : Game) : Prop
    extends Bound c i goal slot g where
  found : g.card? c = some i
  housed : Housed g c i

/-- Between taking a card out of its zone and putting it into another one. -/
structure InTransit (c : CardId) (i : CardInstance) (goal : Zone) (slot : Option Nat)
    (g : Game) : Prop
    extends Bound c i goal slot g where
  loose : Loose g c
  record : ∃ j, g.card? c = some j ∧ j.owner = i.owner ∧ j.controller = i.owner ∧ j.slot = none

namespace Leaving

variable {c : CardId} {i : CardInstance} {goal : Zone} {slot : Option Nat} {g : Game}

theorem agree (leaving : Leaving c i goal slot g) : ZonesAgree g := by
  intro d
  by_cases other : d = c
  · subst other
    refine ⟨fun j found => ?_, fun missing => ?_⟩
    · rw [leaving.found] at found
      exact Option.some.inj found ▸ leaving.housed
    · rw [leaving.found] at missing
      exact nomatch missing
  · exact leaving.others d other

theorem emitted (leaving : Leaving c i goal slot g) (boarded : i.zone = .board) (kind : EventKind)
    (subject : ObjectRef) : Leaving c i goal slot (StateT.run (Step.emit kind subject) g).2 where
  others d other := (Step.emit_stays kind subject g d).settled (leaving.others d other)
  seated := Nat.lt_of_lt_of_eq leaving.seated (Step.emit_stays kind subject g c).seats.symm
  controlled := leaving.controlled
  slotted := leaving.slotted
  free k taken := absurd boarded (leaving.free k taken).1
  found := by
    rw [Game.card?, Step.emit_cards]
    exact leaving.found
  housed := (Step.emit_stays kind subject g c).housed rfl leaving.housed

theorem loose_of_taken {h : Game} (leaving : Leaving c i goal slot g)
    (owners : ∀ z, ((h.player i.owner).holds z).count c =
      ((g.player i.owner).holds z).count c - if z = i.zone then 1 else 0)
    (elsewhere : ∀ p, i.owner ≠ p → h.player p = g.player p) : Loose h c := by
  intro p z
  by_cases owner : i.owner = p
  · subst owner
    rw [owners, leaving.housed.counted]
    by_cases zone : z = i.zone
    · simp only [zone, if_true]
      split <;> rfl
    · simp [zone]
  · rw [elsewhere p owner, leaving.housed.counted, if_neg]
    exact fun h => owner h.1.symm

theorem takenFromPile (leaving : Leaving c i goal slot g) (ordered : i.zone ≠ .board) :
    InTransit c i goal slot (g.modifyPlayer i.owner (·.modifyPile i.zone (·.remove c))) where
  others d other := by
    refine (Stays.modifyPlayer (fun z => ?_) fun k held => ?_).settled (leaving.others d other)
    · rw [Player.count_remove _ ordered]
      simp [other.symm]
    · rw [Player.board_modifyPile]
      exact held
  seated := Nat.lt_of_lt_of_eq leaving.seated (Seats.count_modify _ _ _).symm
  controlled := leaving.controlled
  slotted := leaving.slotted
  free k taken := by
    rw [Game.player_modifyPlayer_self leaving.seated, Player.board_modifyPile]
    exact leaving.free k taken
  loose := by
    refine leaving.loose_of_taken (fun z => ?_) fun p other => g.player_modifyPlayer_of_ne other _
    rw [Game.player_modifyPlayer_self leaving.seated, Player.count_remove _ ordered]
    simp
  record := by
    refine ⟨i, leaving.found, rfl, leaving.controlled, ?_⟩
    have unslotted := mt leaving.housed.slotted.1 ordered
    simpa using unslotted

theorem takenFromBoard (leaving : Leaving c i goal slot g) (boarded : i.zone = .board) :
    InTransit c i goal slot
      ((g.modifyPlayer i.controller fun p => { p with board := p.board.remove c }).modifyCard c
        fun i => { i.leaveBoard with controller := i.owner }) where
  others d other := by
    refine Stays.settled (.trans (.modifyPlayer (fun z => ?_) fun k held => ?_)
      (.modifyCard_of_ne other.symm _)) (leaving.others d other)
    · rw [Player.count_leave]
      simp [other.symm]
    · exact Board.get?_remove other.symm held
  seated := Nat.lt_of_lt_of_eq leaving.seated (Seats.count_modify _ _ _).symm
  controlled := leaving.controlled
  slotted := leaving.slotted
  free k taken := absurd boarded (leaving.free k taken).1
  loose := by
    rw [leaving.controlled]
    refine leaving.loose_of_taken (fun z => ?_) fun p other => g.player_modifyPlayer_of_ne other _
    change (((g.modifyPlayer i.owner _).player i.owner).holds z).count c = _
    rw [Game.player_modifyPlayer_self leaving.seated, Player.count_leave, boarded]
    simp
  record := by
    refine ⟨_, (Game.card?_modifyCard_self _ c _).trans (congrArg _ leaving.found), rfl, rfl, rfl⟩

end Leaving

theorem Loose.housed {c : CardId} {j : CardInstance} {g h : Game} (loose : Loose g c)
    (controlled : j.controller = j.owner) (seated : j.owner.seat < h.players.count)
    (owners : ∀ z, ((h.player j.owner).holds z).count c =
      ((g.player j.owner).holds z).count c + if z = j.zone ∧ z ≠ .stack then 1 else 0)
    (elsewhere : ∀ p, j.owner ≠ p → h.player p = g.player p)
    (slotted : j.slot.isSome ↔ j.zone = .board)
    (placed : ∀ k, j.slot = some k → (h.player j.owner).board.get? k = some c) : Housed h c j where
  controlled := controlled
  seated := seated
  counted p z := by
    by_cases owner : j.owner = p
    · subst owner
      rw [owners, loose]
      simp
    · rw [elsewhere p owner, loose, if_neg]
      exact fun h => owner h.1.symm
  slotted := slotted
  placed k held := by
    rw [controlled]
    exact placed k held

namespace InTransit

variable {c : CardId} {i : CardInstance} {goal : Zone} {slot : Option Nat} {g : Game}

theorem arrived {h : Game} (transit : InTransit c i goal slot g)
    (stays : ∀ d, d ≠ c → Stays d g h)
    (housed : ∀ j, g.card? c = some j → j.owner = i.owner → j.controller = i.owner → j.slot = none →
      ∃ k, h.card? c = some k ∧ Housed h c k) : ZonesAgree h := by
  intro d
  by_cases other : d = c
  · subst other
    obtain ⟨j, known, owner, controller, unslotted⟩ := transit.record
    obtain ⟨k, found, home⟩ := housed j known owner controller unslotted
    refine ⟨fun l same => ?_, fun missing => ?_⟩
    · rw [found] at same
      exact Option.some.inj same ▸ home
    · rw [found] at missing
      exact nomatch missing
  · exact (stays d other).settled (transit.others d other)

theorem putOnBoard {k : Nat} (transit : InTransit c i goal (some k) g) :
    ZonesAgree (((g.modifyPlayer i.controller fun p =>
      { p with board := p.board.place k c }).modifyCard
      c fun i => { i with slot := some k }).modifyCard c fun i => { i with zone := goal }) := by
  have free := (transit.free k rfl).2
  have board : goal = .board := transit.slotted.1 rfl
  rw [transit.controlled]
  refine transit.arrived (fun d other => ?_) fun j known owner controller unslotted => ?_
  · exact .trans (.trans (.place other free) (.modifyCard_of_ne other.symm _))
      (.modifyCard_of_ne other.symm _)
  · refine ⟨{ j with slot := some k, zone := goal }, ?_, ?_⟩
    · rw [Game.card?_modifyCard_self, Game.card?_modifyCard_self]
      exact congrArg (Option.map _ <| Option.map _ ·) known
    · have owned : (g.modifyPlayer i.owner fun p => { p with board := p.board.place k c }).player
        j.owner =
          { g.player j.owner with board := (g.player j.owner).board.place k c } := by
        rw [owner]
        exact Game.player_modifyPlayer_self transit.seated _
      rw [← owner] at free
      refine transit.loose.housed (controller.trans owner.symm) ?_ (fun z => ?_) (fun p other => ?_)
        (by simp [board]) fun m held => ?_
      · exact Nat.lt_of_lt_of_eq (owner ▸ transit.seated) (Seats.count_modify _ _ _).symm
      · refine (congrArg (fun s => (Player.holds s z).count c) owned).trans ?_
        rw [Player.count_place _ free, board]
        cases z <;> simp
      · exact g.player_modifyPlayer_of_ne (owner ▸ other) _
      · refine (congrArg (fun s => s.board.get? m) owned).trans ?_
        exact Option.some.inj held ▸ Board.get?_place_self _ c free

theorem putIntoPile (position : Position) (transit : InTransit c i goal none g) :
    ZonesAgree ((g.modifyPlayer i.owner (·.modifyPile goal (·.insert c position))).modifyCard c
      fun i => { i with zone := goal }) := by
  have ordered : goal ≠ .board := fun board => nomatch transit.slotted.2 board
  refine transit.arrived (fun d other => ?_) fun j known owner controller unslotted => ?_
  · exact .trans (.insert other ordered _ position) (.modifyCard_of_ne other.symm _)
  · refine ⟨{ j with zone := goal }, ?_, ?_⟩
    · rw [Game.card?_modifyCard_self]
      exact congrArg (Option.map _) known
    · have owned : (g.modifyPlayer i.owner (·.modifyPile goal (·.insert c position))).player
        j.owner =
          (g.player j.owner).modifyPile goal (·.insert c position) := by
        rw [owner]
        exact Game.player_modifyPlayer_self transit.seated _
      refine transit.loose.housed (controller.trans owner.symm) ?_ (fun z => ?_) (fun p other => ?_)
        (by simp [unslotted, ordered]) fun m held => ?_
      · exact Nat.lt_of_lt_of_eq (owner ▸ transit.seated) (Seats.count_modify _ _ _).symm
      · refine (congrArg (fun s => (Player.holds s z).count c) owned).trans ?_
        rw [Player.count_insert _ ordered]
        simp
      · exact g.player_modifyPlayer_of_ne (owner ▸ other) _
      · rw [unslotted] at held
        exact nomatch held

end InTransit

namespace Act

variable {c : CardId} {i : CardInstance} {goal : Zone}

theorem leads_slotFor (position : Position) :
    Leads (fun g => ZonesAgree g ∧ g.card? c = some i) (slotFor c i goal position)
      (fun slot => Leaving c i goal slot) ZonesAgree := by
  have leaving : ∀ g slot, ZonesAgree g ∧ g.card? c = some i → (slot.isSome ↔ goal = .board) →
      (∀ k, slot = some k → i.zone ≠ .board ∧ (g.player i.owner).board.isFree k) →
      Leaving c i goal slot g := by
    intro g slot start slotted free
    have housed := (start.1 c).housed i start.2
    exact
      { others := fun d _ => start.1 d, seated := housed.seated, controlled := housed.controlled
        slotted := slotted, free := free, found := start.2, housed := housed }
  unfold slotFor
  split
  · next elsewhere =>
    refine leads_pure fun g start => leaving g none start (by simpa using elsewhere) ?_
    exact fun k taken => nomatch taken
  · next board =>
    have board : goal = .board := Decidable.not_not.1 board
    split
    · exact leads_throw fun g start => start.1
    · next outside =>
      have known : Leads (fun g => ZonesAgree g ∧ g.card? c = some i) (getThe Game)
          (fun known g => (ZonesAgree g ∧ g.card? c = some i) ∧ known = g) ZonesAgree :=
        leads_getThe fun g start => ⟨start, rfl⟩
      have chosen : ∀ slot known, (known.player i.controller).board.isFree slot →
          Leads (fun g => (ZonesAgree g ∧ g.card? c = some i) ∧ known = g) (pure (some slot))
            (fun slot => Leaving c i goal slot) ZonesAgree := by
        intro slot known free
        refine leads_pure fun g start => leaving g (some slot) start.1 (by simp [board]) ?_
        intro k taken
        rw [← Option.some.inj taken, ← ((start.1.1 c).housed i start.1.2).controlled, ← start.2]
        exact ⟨outside, free⟩
      refine known.bind fun known => ?_
      dsimp only
      split
      · split
        · next free => exact chosen _ known free
        · exact leads_throw fun g start => start.1.1
      · split
        · next first => exact chosen _ known (Board.isFree_of_firstFree? _ first)
        · exact leads_throw fun g start => start.1.1

theorem leads_takeOut {slot : Option Nat} :
    Leads (Leaving c i goal slot) (takeOut c i) (fun _ => InTransit c i goal slot) ZonesAgree := by
  unfold takeOut
  split
  · next boarded =>
    have emitted : Leads (Leaving c i goal slot) (liftM (Step.emit .leaveBoard (.card c)))
        (fun _ => Leaving c i goal slot) ZonesAgree :=
      leads_lift fun g leaving => leaving.emitted boarded _ _
    have known : Leads (Leaving c i goal slot) (card c) (fun j g => j = i ∧ Leaving c i goal slot g)
        ZonesAgree := by
      refine leads_card (fun g j leaving found => ⟨?_, leaving⟩) fun g leaving => leaving.agree
      rw [leaving.found] at found
      exact (Option.some.inj found).symm
    refine emitted.bind fun _ => known.bind fun j => leads_modifyThe fun g start => ?_
    rw [start.1]
    exact start.2.takenFromBoard boarded
  · next ordered => exact leads_modifyThe fun g leaving => leaving.takenFromPile ordered

theorem leads_putInto {slot : Option Nat} (position : Position) :
    Leads (InTransit c i goal slot) (putInto c i goal position slot) (fun _ => ZonesAgree)
      ZonesAgree := by
  cases slot with
  | some k => exact fun g transit => transit.putOnBoard
  | none => exact fun g transit => transit.putIntoPile position

theorem keeps_emit_zonesAgree (kind : EventKind) (subject : ObjectRef) :
    Step.Keeps ZonesAgree (Step.emit kind subject) :=
  fun g agree => agree.of_stays (Step.emit_stays kind subject g)

theorem keeps_moveCard_zonesAgree (c : CardId) (goal : Zone) (position : Position) :
    Keeps ZonesAgree (moveCard c goal position) := by
  have found : Leads ZonesAgree (card c) (fun i g => ZonesAgree g ∧ g.card? c = some i)
      ZonesAgree :=
    leads_card (fun g i agree found => ⟨agree, found⟩) fun g agree => agree
  have announced : Keeps ZonesAgree
      (if goal = .board then Step.emit .enterBoard (.card c) else pure () : Act Unit) := by
    split
    · exact keeps_lift (keeps_emit_zonesAgree _ _)
    · exact keeps_pure ()
  exact (found.bind fun i => (leads_slotFor position).bind fun slot => leads_takeOut.bind fun _ =>
    (leads_putInto position).bind fun _ => announced.leads).keeps

end Act

theorem ZonesAgree.added {g : Game} (agree : ZonesAgree g) {owner : PlayerId}
    (seated : owner.seat < g.players.count) (template : Card) (z goal : Zone)
    (ordered : goal ≠ .board) :
    InTransit ⟨g.cards.size⟩ (.fresh ⟨g.cards.size⟩ template owner z) goal none
      (StateT.run (Step.addCard owner template z) g).2 where
  others d other := by
    have stays : Stays d g (StateT.run (Step.addCard owner template z) g).2 := by
      refine ⟨rfl, fun _ _ => rfl, fun _ _ held => held, ?_⟩
      have earlier : d.index ≠ g.cards.size := fun same => other (by rw [← same])
      change ((g.cards.push _)[d.index]?).map _ = _
      rw [Array.getElem?_push, if_neg earlier]
      rfl
    exact stays.settled (agree d)
  seated := seated
  controlled := rfl
  slotted := by simp [ordered]
  free k taken := nomatch taken
  loose := (agree ⟨g.cards.size⟩).unknown (Array.getElem?_eq_none (Nat.le_refl _))
  record := ⟨_, Array.getElem?_push_size, rfl, rfl, rfl⟩

theorem ZonesAgree.addedToStack {g : Game} (agree : ZonesAgree g) {owner : PlayerId}
    (seated : owner.seat < g.players.count) (template : Card) :
    ZonesAgree (StateT.run (Step.addCard owner template .stack) g).2 := by
  have transit := agree.added seated template .stack .stack (by decide)
  refine transit.arrived (fun d _ => .refl d _) fun j known _ _ _ => ?_
  obtain rfl := Option.some.inj (known.symm.trans Array.getElem?_push_size)
  refine ⟨_, known, transit.loose.housed rfl seated (fun z => ?_) (fun _ _ => rfl) ?_ ?_⟩
  · rw [if_neg fun h => h.2 h.1]
    rfl
  · simp [CardInstance.fresh]
  · exact fun _ held => nomatch held

namespace Act

theorem keeps_createCard_zonesAgree (owner : PlayerId) (template : Card) (z : Zone) :
    Keeps ZonesAgree (createCard owner template z) := by
  have added : Leads (fun g => ZonesAgree g ∧ owner.seat < g.players.count)
      (liftM (Step.addCard owner template .stack)) (fun _ => ZonesAgree) ZonesAgree :=
    leads_lift fun g start => start.1.addedToStack start.2 template
  have known : Leads ZonesAgree (getThe Game) (fun known g => ZonesAgree g ∧ known = g)
      ZonesAgree :=
    leads_getThe fun g agree => ⟨agree, rfl⟩
  refine (known.bind fun known => ?_ : Leads ZonesAgree _ (fun _ => ZonesAgree) ZonesAgree).keeps
  refine Leads.bind (Q := fun _ g => ZonesAgree g ∧ owner.seat < g.players.count)
    (leads_require (fun g start seated => ⟨start.1, ?_⟩) fun g start => start.1) fun _ => ?_
  · rw [start.2, Seats.get?, Option.isSome_iff_exists] at seated
    obtain ⟨s, found⟩ := seated
    exact (List.getElem?_eq_some_iff.1 found).1
  · refine Leads.bind (Q := fun _ g => ZonesAgree g ∧ owner.seat < g.players.count)
      (leads_require (fun g start _ => start) fun g start => start.1) fun _ => ?_
    refine added.bind fun c => ?_
    split
    · exact (keeps_moveCard_zonesAgree c z .bottom).leads.bind fun _ =>
        leads_pure fun g agree => agree
    · exact leads_pure fun g agree => agree

end Act

namespace Stays

variable {c : CardId} {g : Game}

theorem accounts {f : Player → Player} (keeps : Accounts f) (p : PlayerId) :
    Stays c g (g.modifyPlayer p f) := by
  refine .modifyPlayer (fun z => ?_) fun k held => ?_
  · rw [keeps.frame (g.player p)]
    cases z <;> rfl
  · rw [keeps.frame (g.player p)]
    exact held

theorem mapWithSeat {f : PlayerId → Player → Player}
    (counts : ∀ p s z, ((f p s).holds z).count c = (s.holds z).count c)
    (board : ∀ p s, (f p s).board = s.board) :
    Stays c g { g with players := g.players.mapWithSeat f } where
  seats := Seats.count_mapWithSeat _ _
  counts p z := g.player_mapWithSeat f (fun s => (s.holds z).count c) (fun p s => counts p s z) p
  slots p k held := by
    rw [g.player_mapWithSeat f Player.board board]
    exact held
  record := rfl

theorem shuffled {p : PlayerId} {z : Zone} {pile pile' : Pile}
    (before : (g.player p).pileOf? z = some pile) (perm : pile'.cards.Perm pile.cards) :
    Stays c g (g.modifyPlayer p (·.modifyPile z fun _ => pile')) := by
  refine .modifyPlayer (fun y => ?_) fun k held => ?_
  · have same := perm.count_eq c
    cases z <;> cases y <;> simp_all [Player.pileOf?, Player.modifyPile, Player.holds]
  · rw [Player.board_modifyPile]
    exact held

end Stays

theorem keeps_shuffleZone_zonesAgree (p : PlayerId) (z : Zone) :
    Step.Keeps ZonesAgree (Step.shuffleZone p z) := by
  refine Step.keeps_modify fun g agree => ?_
  split
  · exact agree
  · next pile before =>
    have shuffled := agree.of_stays fun c => .shuffled before (pile.shuffle_perm g.random)
    exact shuffled.of_frame rfl rfl

theorem zonesAgree_shuffleDecks (g : Game) (agree : ZonesAgree g) : ZonesAgree g.shuffleDecks := by
  refine agree.of_stays fun c => .mapWithSeat (fun p s z => ?_) fun _ _ => rfl
  have perm := s.deck.shuffle_perm (g.random.forContext ("deck-" ++ p.text))
  cases z with
  | deck => exact perm.count_eq c
  | _ => rfl

theorem keptByChanges_zonesAgree : KeptByChanges ZonesAgree where
  talk g _ _ agree := agree.of_frame rfl rfl
  emit := Act.keeps_emit_zonesAgree
  move := Act.keeps_moveCard_zonesAgree
  create := Act.keeps_createCard_zonesAgree
  mark marks g c agree := agree.of_stays fun d => .modifyCard (fun i => by rw [marks i]; rfl) c
  account keeps g p agree := agree.of_stays fun c => .accounts keeps p
  shuffle := keeps_shuffleZone_zonesAgree
  random g r agree := agree.of_frame rfl rfl
  resolving g c agree := agree.of_frame rfl rfl

theorem keptByPlay_zonesAgree : KeptByPlay ZonesAgree :=
  .of_stackless keptByChanges_zonesAgree.toKeptByWrites
    (fun _ _ _ agree => agree.of_frame rfl rfl)
    (fun _ _ agree => agree.of_frame rfl rfl)
    (fun _ _ agree => agree.of_frame rfl rfl)
    (fun keeps g agree => agree.of_stays fun c => .mapWithSeat
      (fun _ s z => by rw [keeps.frame s]; cases z <;> rfl) (fun _ s => by rw [keeps.frame s]))
    zonesAgree_shuffleDecks

theorem ZonesAgree.layOut {g : Game} (agree : ZonesAgree g) {owner : PlayerId}
    (seated : owner.seat < g.players.count) (template : Card) :
    ZonesAgree (g.layOut owner template) := by
  have transit := agree.added seated template .deck .deck (by decide)
  have recorded : (g.layOut owner template).card? ⟨g.cards.size⟩ =
      some (.fresh ⟨g.cards.size⟩ template owner .deck) := Array.getElem?_push_size
  have written := Game.modifyCard_eq_self (f := fun i => { i with zone := .deck }) recorded rfl
  rw [← written]
  exact transit.putIntoPile .bottom

theorem zonesAgree_create {config : RulesConfig} {entrants : List Entrant} {g : Game}
    (created : Game.create config entrants = .ok g) : ZonesAgree g := by
  refine Game.create_induction created (fun seats c => ⟨fun i found => ?_, fun _ p z => ?_⟩)
    fun g owner template seated _ agree => agree.layOut seated template
  · exact nomatch found
  · simp only [Game.player, Game.bare, Seats.map, Seats.get?_mapWithSeat]
    cases seats.get? p with
    | none => exact congrArg (List.count c) (Player.holds_vacant z)
    | some e => exact congrArg (List.count c) (Player.holds_initial config z)

theorem ZonesAgree.of_reached {g : Game} (reached : Reached g) : ZonesAgree g := by
  obtain ⟨config, entrants, start, created, course⟩ := reached
  exact keptByPlay_zonesAgree.reachedFrom (zonesAgree_create created) course

/-- In every game that can come about, each card is where its record says, once, and nowhere else,
and no zone holds anything but cards of the game. -/
theorem Reached.zonesAgree {g : Game} (reached : Reached g) : ZonesAgree g :=
  ZonesAgree.of_reached reached

theorem zonesAgree_afterCast :
    ∃ start, Game.create {} [⟨[.blank "Squire"], .pass⟩, ⟨[], .pass⟩] = .ok start ∧
      let g := Operation.performAll start
        [.draw ⟨0⟩ 1, .enterPhase .play, .cast ⟨0⟩ ⟨0⟩ none, .resolveTop]
      (g.card? ⟨0⟩).map (·.place) = some (⟨0⟩, ⟨0⟩, .board, some 0) ∧ ZonesAgree g := by
  refine ⟨_, rfl, by decide +kernel, ?_⟩
  exact Reached.zonesAgree (reached_performAll {} [⟨[.blank "Squire"], .pass⟩, ⟨[], .pass⟩] rfl _)

end CardGame
