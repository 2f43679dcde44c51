import CardGame.Proofs.Transfers

/-!
Tokens. Each token is a new card of the game, which goes from the stack to the first slot that is
free. So the free slots of the board are taken from left to right, as many as there are tokens or
slots, and the creation ends without failing when none is left, however many tokens were to come.
-/

namespace CardGame

namespace Board

theorem isFree_iff {b : Board} {slot : Nat} :
    b.isFree slot ↔ slot < b.size ∧ b.get? slot = none := by
  rw [isFree, beq_iff_eq, size, get?]
  by_cases inside : slot < b.slots.length <;> simp [inside]

theorem mem_freeSlots {b : Board} {slot : Nat} : slot ∈ b.freeSlots ↔ b.isFree slot := by
  rw [freeSlots, List.mem_filter, List.mem_range]
  exact and_iff_right_of_imp fun free => (isFree_iff.1 free).1

theorem nodup_freeSlots (b : Board) : b.freeSlots.Nodup :=
  List.nodup_range.filter _

theorem head?_freeSlots (b : Board) : b.freeSlots.head? = b.firstFree? := by
  rw [freeSlots, List.head?_filter]
  cases first : b.firstFree? with
  | none =>
    have taken := List.findIdx?_eq_none_iff.1 first
    refine List.find?_eq_none.2 fun slot _ free => ?_
    have empty := List.mem_of_getElem? (beq_iff_eq.1 free)
    exact Bool.false_ne_true (taken none empty).symm
  | some slot =>
    obtain ⟨inside, -, before⟩ := List.findIdx?_eq_some_iff_getElem.1 first
    refine List.find?_range_eq_some.2 ⟨b.isFree_of_firstFree? first, List.mem_range.2 inside,
      fun k less => ?_⟩
    have occupied := before k less
    simp only [isFree, Bool.not_eq_true', beq_eq_false_iff_ne]
    rw [List.getElem?_eq_getElem (Nat.lt_trans less inside)]
    exact fun free => occupied (by rw [Option.some.inj free]; rfl)

theorem get?_place_of_ne (b : Board) (c : CardId) {slot k : Nat} (other : k ≠ slot) :
    (b.place slot c).get? k = b.get? k := by
  rw [place]
  split
  · rw [get?, get?, List.getElem?_set_ne other.symm]
  · rfl

end Board

/-- A card that has come to a slot of a board and to which nothing else has happened. -/
def CardInstance.onBoard (c : CardId) (template : Card) (p : PlayerId) (slot : Nat) :
    CardInstance :=
  { fresh c template p .board with slot := some slot }

/-- From one game to another, new cards of a template came to slots of a player's board that were
free, one after the other, and some events were told; nothing else changed but for triggered uses on
the stack. -/
structure Placed (p : PlayerId) (template : Card) (slots : List Nat) (told : List GameEvent)
    (g h : Game) : Prop
    extends Aside g h where
  cards : h.cards.toList =
    g.cards.toList ++ slots.mapIdx fun k slot => .onBoard ⟨g.cards.size + k⟩ template p slot
  player : h.player p = { g.player p with board := (h.player p).board }
  size : (h.player p).board.size = (g.player p).board.size
  free : ∀ slot ∈ slots, (g.player p).board.isFree slot
  taken : ∀ k slot, slots[k]? = some slot → (h.player p).board.get? slot = some ⟨g.cards.size + k⟩
  kept : ∀ slot, slot ∉ slots → (h.player p).board.get? slot = (g.player p).board.get? slot
  others : ∀ q, q ≠ p → h.player q = g.player q
  events : h.events = g.events ++ told

namespace Placed

variable {p : PlayerId} {template : Card} {slots later : List Nat} {told told' : List GameEvent}
  {f g h : Game}

theorem refl (p : PlayerId) (template : Card) (g : Game) : Placed p template [] [] g g where
  toAside := .of_eq rfl rfl rfl rfl rfl rfl rfl rfl
  cards := (List.append_nil _).symm
  player := rfl
  size := rfl
  free := nofun
  taken := nofun
  kept _ _ := rfl
  others _ _ := rfl
  events := (List.append_nil _).symm

theorem cards_size (placed : Placed p template slots told g h) :
    h.cards.size = g.cards.size + slots.length := by
  have sizes := congrArg List.length placed.cards
  simpa using sizes

theorem isFree_iff (placed : Placed p template slots told g h) (slot : Nat) :
    (h.player p).board.isFree slot ↔ (g.player p).board.isFree slot ∧ slot ∉ slots := by
  rw [Board.isFree_iff, Board.isFree_iff, placed.size]
  by_cases mem : slot ∈ slots
  · obtain ⟨k, found⟩ := List.mem_iff_getElem?.1 mem
    simp [mem, placed.taken k slot found]
  · simp [mem, placed.kept slot mem]

theorem freeSlots (placed : Placed p template slots told g h) :
    (h.player p).board.freeSlots = (g.player p).board.freeSlots.filter (· ∉ slots) := by
  rw [Board.freeSlots, Board.freeSlots, List.filter_filter, placed.size]
  refine List.filter_congr fun slot _ => ?_
  rw [Bool.eq_iff_iff, placed.isFree_iff slot]
  simp [and_comm]

theorem trans (first : Placed p template slots told f g)
    (next : Placed p template later told' g h) :
    Placed p template (slots ++ later) (told ++ told') f h where
  toAside := first.toAside.trans next.toAside
  cards := by
    have shifted (k : Nat) : f.cards.size + slots.length + k = f.cards.size +
      (k + slots.length) := by omega
    rw [next.cards, first.cards, List.mapIdx_append, List.append_assoc, first.cards_size]
    simp only [shifted]
  player := by rw [next.player, first.player]
  size := next.size.trans first.size
  free := by
    refine List.forall_mem_append.2 ⟨first.free, fun slot mem => ?_⟩
    exact ((first.isFree_iff slot).1 (next.free slot mem)).1
  taken k slot found := by
    rcases Nat.lt_or_ge k slots.length with before | after
    · rw [List.getElem?_append_left before] at found
      have apart : slot ∉ later := fun mem =>
        ((first.isFree_iff slot).1 (next.free slot mem)).2 (List.mem_of_getElem? found)
      rw [next.kept slot apart]
      exact first.taken k slot found
    · rw [List.getElem?_append_right after] at found
      rw [next.taken _ slot found, first.cards_size, Nat.add_assoc, Nat.add_sub_cancel' after]
  kept slot apart := by
    obtain ⟨before, after⟩ := not_or.1 (mt List.mem_append.2 apart)
    exact (next.kept slot after).trans (first.kept slot before)
  others q other := (next.others q other).trans (first.others q other)
  events := by rw [next.events, first.events, List.append_assoc]

end Placed

def Game.addToBoard (g : Game) (p : PlayerId) (template : Card) (slot : Nat) : Game :=
  let c : CardId := ⟨g.cards.size⟩
  { g.modifyPlayer p fun s => { s with board := s.board.place slot c } with
    cards := g.cards.push (.onBoard c template p slot) }

theorem modify_push_size {α : Type} (l : Array α) (a : α) (f : α → α) :
    (l.push a).modify l.size f = l.push (f a) := by
  refine Array.ext_getElem? fun k => ?_
  rw [Array.getElem?_modify, Array.getElem?_push, Array.getElem?_push]
  by_cases last : k = l.size
  · simp [last]
  · simp [last, Ne.symm last]

namespace Act

variable {g : Game} {p : PlayerId} {slot : Nat}

theorem run_moveCard_added (template : Card) (first : (g.player p).board.firstFree? = some slot) :
    StateT.run (ExceptT.run (moveCard ⟨g.cards.size⟩ .board .bottom))
        { g with cards := g.cards.push (.fresh ⟨g.cards.size⟩ template p .stack) } =
      (.ok (), Step.leave (Step.emit .enterBoard (.card ⟨g.cards.size⟩))
        (g.addToBoard p template slot)) := by
  let c : CardId := ⟨g.cards.size⟩
  let i := CardInstance.fresh c template p .stack
  let added : Game := { g with cards := g.cards.push i }
  have off : i.zone ≠ .board := show Zone.stack ≠ .board from nofun
  have found : added.card? c = some i := Array.getElem?_push_size
  have slotted : StateT.run (ExceptT.run (slotFor c i .board .bottom)) added =
      (.ok (some slot), added) := by
    have room : (added.player i.controller).board.firstFree? = some slot := first
    rw [slotFor, if_neg (by decide), if_neg off, run_bind_of_ok (run_getThe added)]
    simp only [room]
    rfl
  have taken : StateT.run (ExceptT.run (takeOut c i)) added = (.ok (), added) := by
    have still : added.modifyPlayer p (·.modifyPile .stack (·.remove c)) = added :=
      added.modifyPlayer_id p
    rw [takeOut, if_neg off]
    exact congrArg (Prod.mk (Except.ok ())) still
  have put : StateT.run (ExceptT.run (putInto c i .board .bottom (some slot))) added =
      (.ok (), g.addToBoard p template slot) := by
    have cards : ((g.cards.push i).modify g.cards.size fun i => { i with slot := some slot }).modify
      g.cards.size
        (fun i => { i with zone := .board }) = g.cards.push (.onBoard c template p slot) := by
      rw [modify_push_size, modify_push_size]
      rfl
    rw [Game.addToBoard, ← cards]
    rfl
  rw [moveCard, run_bind_of_ok (run_card found), run_bind_of_ok slotted, run_bind_of_ok taken,
    run_bind_of_ok put, if_pos rfl]
  rfl

theorem run_createCard_board (seated : p.seat < g.players.count) (template : Card)
    (first : (g.player p).board.firstFree? = some slot) :
    StateT.run (ExceptT.run (createCard p template .board)) g = (.ok ⟨g.cards.size⟩,
      Step.leave (Step.emit .enterBoard (.card ⟨g.cards.size⟩))
        (g.addToBoard p template slot)) := by
  let c : CardId := ⟨g.cards.size⟩
  have owned : (g.players.get? p).isSome := by
    rw [Seats.get?, List.getElem?_eq_getElem seated]
    rfl
  have fits : Zone.board ≠ .board || (g.player p).board.firstFree?.isSome := by
    rw [first]
    rfl
  have grown : StateT.run (ExceptT.run (liftM (Step.addCard p template .stack) : Act CardId)) g =
      (.ok c, { g with cards := g.cards.push (.fresh c template p .stack) }) := rfl
  rw [createCard, run_bind_of_ok (run_getThe g), run_bind_of_ok (run_require owned _ g),
    run_bind_of_ok (run_require fits _ g), run_bind_of_ok grown,
    if_pos (by decide), run_bind_of_ok (run_moveCard_added template first)]
  rfl

end Act

theorem Placed.addToBoard {g : Game} {p : PlayerId} {slot : Nat} (seated : p.seat < g.players.count)
    (template : Card) (free : (g.player p).board.isFree slot) :
    Placed p template [slot] [] g (g.addToBoard p template slot) := by
  have own : (g.addToBoard p template slot).player p =
      { g.player p with board := (g.player p).board.place slot ⟨g.cards.size⟩ } :=
    Game.player_modifyPlayer_self seated _
  exact
    { toAside := .of_eq rfl (Seats.count_modify _ _ _) rfl rfl rfl rfl rfl rfl
      cards := Array.toList_push
      player := by rw [own]
      size := by rw [own, Board.size_place]
      free := fun k mem => List.mem_singleton.1 mem ▸ free
      taken := fun k j found => by
        obtain ⟨rfl, rfl⟩ : k = 0 ∧ slot = j := by
          cases k with
          | zero => exact ⟨rfl, Option.some.inj found⟩
          | succ k => exact nomatch found
        rw [own]
        exact Board.get?_place_self _ _ free
      kept := fun k apart => by
        rw [own]
        exact Board.get?_place_of_ne _ _ (mt List.mem_singleton.2 apart)
      others := fun q other => Game.player_modifyPlayer_of_ne g other.symm _
      events := (List.append_nil _).symm }

theorem Placed.emit {p : PlayerId} {template : Card} {slots : List Nat} {told : List GameEvent}
    {g h : Game}
    (placed : Placed p template slots told g h) (kind : EventKind) (untargeted : kind ≠ .target)
    (plain : kind ≠ .lose) (subject : ObjectRef) :
    Placed p template slots (told ++ g.announced kind subject) g
      (Step.leave (Step.emit kind subject) h) := by
  have emitted := Handed.emit untargeted plain subject p .board h
  have next : Placed p template [] (g.announced kind subject) h
      (Step.leave (Step.emit kind subject) h) :=
    { toAside := emitted.toAside
      cards := by
        rw [List.mapIdx_nil, List.append_nil]
        exact congrArg _ (Step.emit_cards kind subject h)
      player := by
        rw [show (Step.leave (Step.emit kind subject) h).player p = _ from emitted.player]
      size := congrArg (·.board.size) emitted.player
      free := nofun
      taken := nofun
      kept := fun slot _ => congrArg (·.board.get? slot) emitted.player
      others := emitted.others
      events := placed.toAside.announced kind subject ▸ emitted.events }
  exact List.append_nil slots ▸ placed.trans next

/-- What is told of so many new cards that enter a board: each one, as far as there is room for
events. -/
def Game.enterEvents (g : Game) (count : Nat) : List GameEvent :=
  (List.range count).flatMap fun k => g.announced .enterBoard (.card ⟨g.cards.size + k⟩)

theorem Game.enterEvents_of_shallow {g : Game} (shallow : g.eventDepth = 0) (count : Nat) :
    g.enterEvents count =
      if 1 ≤ g.config.maxEventDepth then
        (List.range count).map fun k => ⟨.enterBoard, g.resolving, .card ⟨g.cards.size + k⟩⟩
      else [] := by
  have room : 0 < g.config.maxEventDepth.toNat ↔ 1 ≤ g.config.maxEventDepth := by
    rw [UInt64.le_iff_toNat_le]
    rfl
  simp only [enterEvents, announced, shallow, room]
  split
  · exact List.map_eq_flatMap.symm
  · simp

theorem Placed.enterEvents_succ {p : PlayerId} {template : Card} {slot : Nat}
    {told : List GameEvent} {g h : Game}
    (placed : Placed p template [slot] told g h) (count : Nat) :
    g.announced .enterBoard (.card ⟨g.cards.size⟩) ++ h.enterEvents count =
      g.enterEvents (count + 1) := by
  have later (k : Nat) : h.announced .enterBoard (.card ⟨h.cards.size + k⟩) =
      g.announced .enterBoard (.card ⟨g.cards.size + (k + 1)⟩) := by
    rw [placed.toAside.announced, placed.cards_size, Nat.add_assoc, Nat.add_comm k]
    rfl
  simp only [Game.enterEvents, later, List.range_succ_eq_map, List.flatMap_cons, List.flatMap_map]
  rfl

namespace Act

variable {p : PlayerId}

theorem ends_createTokens_placed (template : Card) (n : Nat) {g : Game}
    (seated : p.seat < g.players.count) :
    Ends (fun h => h = g) (createTokens p template n)
      (fun _ => Placed p template ((g.player p).board.freeSlots.take n)
        (g.enterEvents ((g.player p).board.freeSlots.take n).length) g) fun _ _ => False := by
  induction n generalizing g with
  | zero => exact ends_pure fun h same => same ▸ .refl p template h
  | succ n ih =>
    refine ends_readGiven.bind fun known => .given fun same => ?_
    subst same
    split
    · next room =>
      obtain ⟨slot, first⟩ := Option.isSome_iff_exists.1 room
      obtain ⟨rest, free⟩ := List.head?_eq_some_iff.1 ((Board.head?_freeSlots _).trans first)
      obtain ⟨fresh, -⟩ := List.nodup_cons.1 (free ▸ Board.nodup_freeSlots (known.player p).board)
      have created : Ends (fun h => h = known) (createCard p template .board)
          (fun _ => Placed p template [slot] ([] ++
            known.announced .enterBoard (.card ⟨known.cards.size⟩)) known)
          fun _ _ => False := by
        rintro h rfl
        rw [run_createCard_board seated template first]
        have placed := Placed.addToBoard seated template (Board.isFree_of_firstFree? _ first)
        exact placed.emit .enterBoard nofun nofun (.card ⟨h.cards.size⟩)
      refine created.bind fun _ h before => ?_
      have left : (h.player p).board.freeSlots = rest := by
        rw [before.freeSlots, free, List.filter_cons, if_neg (by simp)]
        refine List.filter_eq_self.2 fun k mem => ?_
        exact decide_eq_true fun same => fresh (List.mem_singleton.1 same ▸ mem)
      refine ((ih (before.seats.symm ▸ seated)).after fun _ k next => ?_) h rfl
      rw [left] at next
      rw [free, List.take_succ_cons, List.length_cons, ← before.enterEvents_succ]
      exact before.trans next
    · next full =>
      have none : (known.player p).board.freeSlots = [] := by
        rw [← List.head?_eq_none_iff, Board.head?_freeSlots]
        simpa using full
      rw [none]
      exact ends_pure fun h same => same ▸ .refl p template h

end Act

/-- Tokens fill the free slots of a player's board, also in the midst of an operation. Creating them
never fails, whatever their number; as many new cards as the number says, or as there are free
slots, come into the game, owned and controlled by the player, and in the order of their creation
they take the free slots from left to right. Nothing else changes but for the triggered uses on the
stack. One event is told for each new card, or none at all when the configuration leaves no room for
events. -/
theorem Underway.tokens_exact {g : Game} (underway : Underway g) {p : PlayerId}
    (seated : p.seat < g.players.count) (u : AbilityUse) (count : Quantity) (stats : Option Stats)
    (kinds : List KindWord) (subtypes : List CardSubtype) (objects : List ObjectRef) :
    let free := (g.player p).board.freeSlots
    let number := min (max (count.value u.x).toInt 0).toNat free.length
    ∃ h, StateT.run
      (ExceptT.run (Act.applyToPlayer u (.token count stats kinds subtypes) p objects)) g =
        (.ok u, h) ∧
      Placed p (.token stats kinds subtypes) (free.take number)
        (if 1 ≤ g.config.maxEventDepth then
          (List.range number).map fun k => ⟨.enterBoard, g.resolving, .card ⟨g.cards.size + k⟩⟩
        else []) g h := by
  intro free number
  have times : (count.value u.x).times = (max (count.value u.x).toInt 0).toNat := by
    rw [Amount.times]; omega
  have taken : free.take (count.value u.x).times = free.take number := by
    rw [times, List.take_eq_take_min]
  have length : (free.take number).length = number := by rw [List.length_take]; omega
  obtain ⟨⟨⟩, h, ran, placed⟩ := (Act.ends_createTokens_placed (.token stats kinds subtypes)
    (count.value u.x).times seated).succeeds rfl
  refine ⟨h, Act.run_bind_of_ok ran, ?_⟩
  rw [taken, length, Game.enterEvents_of_shallow underway.eventDepth] at placed
  exact placed

theorem tokens_exact_besideSquire :
    ∃ start, Game.create { boardSize := 3 } [⟨[.blank "Squire"], .pass⟩, ⟨[], .pass⟩] = .ok start ∧
      let g := Operation.performAll start [.moveCard ⟨0⟩ .board (.index 1)]
      let u := AbilityUse.fresh ⟨0⟩ .cast ⟨0⟩ ⟨0⟩
      0 < g.players.count ∧ ∃ h, StateT.run (ExceptT.run (Act.applyToPlayer u
          (.token (.number 5) none [⟨.unit, false⟩] []) ⟨0⟩ [])) g = (.ok u, h) ∧
        (h.player ⟨0⟩).board.get? 0 = some ⟨1⟩ ∧ (h.player ⟨0⟩).board.get? 1 = some ⟨0⟩ ∧
        (h.player ⟨0⟩).board.get? 2 = some ⟨2⟩ ∧
        h.events = g.events ++ [⟨.enterBoard, none, .card ⟨1⟩⟩,
          ⟨.enterBoard, none, .card ⟨2⟩⟩] := by
  refine ⟨_, rfl, by decide +kernel, ?_⟩
  have reached := reached_performAll { boardSize := 3 } [⟨[.blank "Squire"], .pass⟩,
    ⟨[], .pass⟩] rfl
    [.moveCard ⟨0⟩ .board (.index 1)]
  obtain ⟨h, ran, placed⟩ := (Underway.reached reached).tokens_exact (p := ⟨0⟩) (by decide +kernel)
    (.fresh ⟨0⟩ .cast ⟨0⟩ ⟨0⟩) (.number 5) none [⟨.unit, false⟩] [] []
  refine ⟨h, ran, ?_, ?_, ?_, ?_⟩
  · exact (placed.taken 0 0 (by decide +kernel)).trans (by decide +kernel)
  · exact (placed.kept 1 (by decide +kernel)).trans (by decide +kernel)
  · exact (placed.taken 1 2 (by decide +kernel)).trans (by decide +kernel)
  · rw [placed.events]
    decide +kernel

theorem token_untold :
    ∃ start, Game.create { maxEventDepth := 0 } [⟨[], .pass⟩, ⟨[], .pass⟩] = .ok start ∧
      let h := Step.leave (Act.outcome (Act.applyToPlayer (.fresh ⟨0⟩ .cast ⟨0⟩ ⟨0⟩)
        (.token (.number 1) none [⟨.unit, false⟩] []) ⟨0⟩ [])) start
      (h.player ⟨0⟩).board.get? 0 = some ⟨0⟩ ∧ h.cards.size = 1 ∧ h.events = start.events :=
  ⟨_, rfl, by decide +kernel⟩

end CardGame
