import CardGame.Proofs.Reached

/-!
Whose turns are started. After a turn the same player goes on or a seat is looked for, and neither
leads to a player who has lost while the game is undecided. Only the seat that begins is not looked
for in this way: it is drawn before the opening hands are, and a player may lose by drawing one.
-/

namespace CardGame

namespace Game

variable {g : Game} {p : PlayerId}

theorem mem_remaining : p ∈ g.remaining ↔ p.seat < g.players.count ∧ (g.player p).lost = false := by
  simp only [remaining, Seats.toList, List.mem_map, List.mem_filter, List.mem_mapIdx, player,
    Seats.get?, Seats.count, Prod.exists]
  constructor
  · rintro ⟨q, s, ⟨⟨k, inRange, same⟩, playing⟩, rfl⟩
    obtain ⟨rfl, rfl⟩ := Prod.mk.inj same
    exact ⟨inRange, by simpa [List.getElem?_eq_getElem inRange] using playing⟩
  · rintro ⟨inRange, playing⟩
    rw [List.getElem?_eq_getElem inRange, Option.getD_some] at playing
    exact ⟨p, g.players.entries[p.seat], ⟨⟨p.seat, inRange, rfl⟩, by simp [playing]⟩, rfl⟩

theorem exists_remaining (undecided : g.isOver = false) : ∃ p, p ∈ g.remaining := by
  refine List.exists_mem_of_ne_nil _ fun none => ?_
  rw [isOver, none] at undecided
  split at undecided <;> exact nomatch undecided

end Game

structure TurnStart where
  player : PlayerId
  game : Game

def TurnStart.Living (t : TurnStart) : Prop :=
  (t.game.player t.player).lost = false

namespace Step

/-- Play turns as `runTurns` does, listing those that are started. -/
def listTurns (phaseBound : Nat) : (bound : Nat) → PlayerId → Step (Option Unit × List TurnStart)
  | 0, _ => return (none, [])
  | bound + 1, p => do
    let g ← get
    if g.isOver then
      return (some (), [])
    else if atTurnLimit g then
      notice (.turnLimitReached g.turn.number)
      return (some (), [])
    else
      match ← runTurn phaseBound p with
      | none => return (none, [⟨p, g⟩])
      | some () =>
        let (ended, later) ← listTurns phaseBound bound (← afterTurn p)
        return (ended, ⟨p, g⟩ :: later)

def opening : Step PlayerId := do
  let first ← chooseFirst
  modify fun g => { g with turn := { g.turn with active := first } }
  modify fun g => { g with players := g.players.map fun s => { s with life := g.config.startLife } }
  openingDraws
  notice (.gameStarted (← get).players.count first)
  return first

def conclude : Step GameResult := do
  let result := resultOf (← get)
  result.winnerList.forM fun p => emit .win (.player p)
  notice (.gameOver (← get).turn.number result)
  return result

def listRun (bound : Nat) : Step (Option GameResult × List TurnStart) := do
  let (ended, turns) ← listTurns bound bound (← opening)
  match ended with
  | none => return (none, turns)
  | some () => return (some (← conclude), turns)

section Turns

variable {phaseBound bound : Nat} {p : PlayerId} {g : Game}

theorem map_listTurns (phaseBound bound : Nat) (p : PlayerId) :
    (·.1) <$> listTurns phaseBound bound p = runTurns phaseBound bound p := by
  induction bound generalizing p with
  | zero => rfl
  | succ bound ih =>
    simp only [listTurns, runTurns, map_bind, ← ih]
    refine bind_congr fun g => ?_
    split
    · rfl
    · split
      · rfl
      · simp only [map_bind]
        refine bind_congr fun played => ?_
        cases played <;> simp

theorem run_eq (bound : Nat) : run bound = do
    match ← runTurns bound bound (← opening) with
    | none => return none
    | some () => return some (← conclude) :=
  rfl

theorem map_listRun (bound : Nat) : (·.1) <$> listRun bound = run bound := by
  simp only [run_eq, listRun, map_bind, ← map_listTurns, bind_map_left]
  refine bind_congr fun first => bind_congr fun result => ?_
  rcases result with ⟨_ | _, turns⟩ <;> simp

theorem exists_seat_after {seats : Nat} (seat : Nat) {goal : Nat} (inRange : goal < seats) :
    ∃ i < seats, (seat + 1 + i) % seats = goal := by
  have before : (seat + 1) % seats < seats := Nat.mod_lt _ (Nat.zero_lt_of_lt inRange)
  by_cases ahead : (seat + 1) % seats ≤ goal
  · refine ⟨goal - (seat + 1) % seats, by omega, ?_⟩
    rw [← Nat.mod_add_mod, Nat.add_sub_cancel' ahead, Nat.mod_eq_of_lt inRange]
  · refine ⟨goal + seats - (seat + 1) % seats, by omega, ?_⟩
    rw [← Nat.mod_add_mod, Nat.add_sub_cancel' (by omega), Nat.add_mod_right,
      Nat.mod_eq_of_lt inRange]

theorem nextSeat_living (p : PlayerId) (left : ∃ q, q ∈ g.remaining) :
    (g.player (nextSeat g p)).lost = false := by
  obtain ⟨q, mem⟩ := left
  obtain ⟨inRange, playing⟩ := Game.mem_remaining.1 mem
  obtain ⟨i, below, around⟩ := exists_seat_after p.seat inRange
  have found : (((List.range g.players.count).map fun i =>
      (⟨(p.seat + 1 + i) % g.players.count⟩ : PlayerId)).find? fun q =>
        !(g.player q).lost).isSome := by
    refine List.find?_isSome.2 ⟨q, List.mem_map.2 ⟨i, List.mem_range.2 below, ?_⟩, by
      simp [playing]⟩
    rw [around]
  obtain ⟨next, met⟩ := Option.isSome_iff_exists.1 found
  rw [nextSeat, met]
  simpa using List.find?_some met

theorem afterTurn_living {next : PlayerId} {h : Game}
    (after : StateT.run (afterTurn p) g = (next, h))
    (undecided : h.isOver = false) : (h.player next).lost = false := by
  have unfolded : StateT.run (afterTurn p) g =
      StateT.run (if 0 < (g.player p).extraTurns ∧ !(g.player p).lost then do
        modify (·.modifyPlayer p fun s => { s with extraTurns := s.extraTurns - 1 })
        return p
      else
        return nextSeat g p) g := rfl
  rw [unfolded] at after
  split at after
  · next extra =>
    obtain ⟨rfl, rfl⟩ := Prod.mk.inj after
    have playing : (g.player p).lost = false := by simpa using extra.2
    obtain same | ⟨-, taken⟩ := g.player_modifyPlayer p p fun s =>
      { s with extraTurns := s.extraTurns - 1 }
    · exact same ▸ playing
    · rw [taken]
      exact playing
  · obtain ⟨rfl, rfl⟩ := Prod.mk.inj after
    exact nextSeat_living p (Game.exists_remaining undecided)

theorem listTurns_cases (phaseBound bound : Nat) (p : PlayerId) (g : Game) :
    let turns := (StateT.run (listTurns phaseBound bound p) g).1.2
    turns = [] ∨ g.isOver = false ∧ (turns = [⟨p, g⟩] ∨
      ∃ fewer < bound, ∃ h next k, StateT.run (afterTurn p) h = (next, k) ∧
        turns = ⟨p, g⟩ :: (StateT.run (listTurns phaseBound fewer next) k).1.2) := by
  cases bound with
  | zero => exact .inl rfl
  | succ bound =>
    have unfolded : StateT.run (listTurns phaseBound (bound + 1) p) g = StateT.run (if g.isOver then
        return (some (), [])
      else if atTurnLimit g then do
        notice (.turnLimitReached g.turn.number)
        return (some (), [])
      else do
        match ← runTurn phaseBound p with
        | none => return (none, [⟨p, g⟩])
        | some () =>
          let (ended, later) ← listTurns phaseBound bound (← afterTurn p)
          return (ended, ⟨p, g⟩ :: later)) g := rfl
    rw [unfolded]
    split
    · exact .inl rfl
    · next undecided =>
      split
      · exact .inl rfl
      · refine .inr ⟨Bool.eq_false_iff.2 undecided, ?_⟩
        rw [StateT.run_bind]
        rcases StateT.run (runTurn phaseBound p) g with ⟨_ | _, h⟩
        · exact .inl rfl
        · exact .inr ⟨bound, Nat.lt_succ_self bound, h, _, _, rfl, rfl⟩

theorem listTurns_living (phaseBound bound : Nat) (p : PlayerId) (g : Game)
    (ready : g.isOver = false → (g.player p).lost = false) :
    ∀ t ∈ (StateT.run (listTurns phaseBound bound p) g).1.2, t.Living := by
  induction bound using Nat.strongRecOn generalizing p g with
  | ind bound ih =>
    intro t mem
    obtain none | ⟨undecided, last | ⟨fewer, less, h, next, k, after, more⟩⟩ :=
      listTurns_cases phaseBound bound p g
    · exact nomatch none ▸ mem
    · rw [last, List.mem_singleton] at mem
      exact mem ▸ ready undecided
    · rw [more] at mem
      rcases List.mem_cons.1 mem with rfl | later
      · exact ready undecided
      · exact ih fewer less next k (afterTurn_living after) t later

theorem listTurns_head {t : TurnStart}
    (first : (StateT.run (listTurns phaseBound bound p) g).1.2[0]? = some t) : t = ⟨p, g⟩ := by
  obtain none | ⟨-, last | ⟨fewer, -, h, next, k, -, more⟩⟩ := listTurns_cases phaseBound bound p g
  · rw [none] at first
    exact nomatch first
  · rw [last] at first
    exact (Option.some.inj first).symm
  · rw [more] at first
    exact (Option.some.inj first).symm

theorem listTurns_later {k : Nat} {t : TurnStart}
    (later : (StateT.run (listTurns phaseBound bound p) g).1.2[k + 1]? = some t) : t.Living := by
  obtain none | ⟨-, last | ⟨fewer, -, h, next, left, after, more⟩⟩ :=
    listTurns_cases phaseBound bound p g
  · rw [none] at later
    exact nomatch later
  · rw [last] at later
    exact nomatch later
  · rw [more, List.getElem?_cons_succ] at later
    exact listTurns_living phaseBound fewer next left (afterTurn_living after) t
      (List.mem_of_getElem? later)

theorem listRun_turns (bound : Nat) (g : Game) :
    let (first, opened) := StateT.run opening g
    (StateT.run (listRun bound) g).1.2 = (StateT.run (listTurns bound bound first) opened).1.2 := by
  have concluded : ∀ (ended : Option Unit) (turns : List TurnStart) (h : Game),
      (StateT.run (match ended with
        | none => return (none, turns)
        | some () =>
          return (some (← conclude), turns) : Step (Option GameResult × List TurnStart)) h).1.2 =
        turns := by
    rintro (_ | _) turns h <;> rfl
  exact concluded _ _ _

end Turns

end Step

/-- Whose turns a run of a game starts. The run listed by `Step.listRun` is the one of
`Step.run`. -/
structure TurnsOfLiving (bound : Nat) (g : Game) : Prop where
  follows : StateT.run (Step.run bound) g =
    ((StateT.run (Step.listRun bound) g).1.1, (StateT.run (Step.listRun bound) g).2)
  /-- A turn is started for a player who has lost when it is the first one, and the player whose
  seat was drawn lost in the opening draws. -/
  lost_iff : let (first, opened) := StateT.run Step.opening g
    ∀ k t, (StateT.run (Step.listRun bound) g).1.2[k]? = some t →
      ((t.game.player t.player).lost = true ↔ k = 0 ∧ (opened.player first).lost = true)

/-- However many turns a run takes, whatever is played in them and whoever loses on the way, each of
them is of a player who has not lost, but for a first turn of one who lost in the opening draws. -/
theorem turnsOfLiving (bound : Nat) (g : Game) : TurnsOfLiving bound g := by
  refine ⟨?_, fun k t listed => ?_⟩
  · rw [← Step.map_listRun, StateT.run_map]
    rfl
  · rw [Step.listRun_turns] at listed
    cases k with
    | zero =>
      rw [Step.listTurns_head listed]
      simp
    | succ k =>
      have living : (t.game.player t.player).lost = false := Step.listTurns_later listed
      simp [living]

example : ∃ start, Game.create { seed := 3, startCards := 1, maxTurns := some 1 }
      [⟨[], .pass⟩, ⟨[.blank "Squire"], .pass⟩, ⟨[.blank "Page"], .pass⟩] = .ok start ∧
    (StateT.run (Step.listRun 20) start).1.2.map
    (fun t => (t.player, (t.game.player t.player).lost)) =
      [(⟨0⟩, true)] := by
  refine ⟨_, rfl, by decide +kernel⟩

end CardGame
