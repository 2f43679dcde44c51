import CardGame.Proofs.Stack
import Mathlib.Data.List.Rotate

/-!
Rounds of priority. Those who have passed since anyone last acted are counted, and priority goes on
from one seat to the next until the count reaches the number of seats; so the first round of passes
is made by every seat once. A phase resolves the top use, or ends, only after such a round.
-/

namespace CardGame

inductive StackMove where
  | push (u : AbilityUse)
  | pop
  | acted
  | pass
  | resetPriority (active : PlayerId)

namespace StackMove

def perform (s : PriorityStack) : StackMove → PriorityStack
  | push u => s.push u
  | pop => s.pop.2
  | acted => s.acted
  | pass => s.pass.2
  | resetPriority active => s.resetPriority active

def performAll (s : PriorityStack) (moves : List StackMove) : PriorityStack :=
  moves.foldl perform s

def restarts : StackMove → Bool
  | push _ => true
  | acted => true
  | resetPriority _ => true
  | _ => false

def Seated (seats : Nat) : StackMove → Prop
  | resetPriority active => active.seat < seats
  | _ => True

end StackMove

/-- What happens at a table as far as priority goes. -/
inductive Beat where
  /-- Someone acted, or a use went on the stack, or priority was handed over. -/
  | stir
  | pass (p : PlayerId)
  /-- The top use resolves, and priority is handed over. -/
  | resolve
  /-- The phase ends. -/
  | finish
deriving DecidableEq

namespace Beat

/-- Whether a beat takes the consent of everyone. -/
def decides : Beat → Bool
  | resolve => true
  | finish => true
  | _ => false

/-- Those who have passed in a row after a beat, given those who had before. -/
def passedAfter (passed : List PlayerId) : Beat → List PlayerId
  | stir => []
  | pass p => passed ++ [p]
  | resolve => []
  | finish => passed

end Beat

def PriorityStack.beats (s : PriorityStack) : List StackMove → List Beat
  | [] => []
  | .pop :: rest => s.pop.2.beats rest
  | .pass :: rest => .pass s.priority :: s.pass.2.beats rest
  | move :: rest => .stir :: (move.perform s).beats rest

theorem PriorityStack.beats_append (s : PriorityStack) (moves rest : List StackMove) :
    s.beats (moves ++ rest) = s.beats moves ++ (StackMove.performAll s moves).beats rest := by
  induction moves generalizing s with
  | nil => rfl
  | cons move moves ih =>
    cases move with
    | pop => exact ih _
    | _ => exact congrArg (List.cons _) (ih _)

theorem PriorityStack.beats_cons (s : PriorityStack) (move : StackMove) (rest : List StackMove) :
    s.beats (move :: rest) = s.beats [move] ++ (move.perform s).beats rest :=
  s.beats_append [move] rest

def PlayerId.round (first : PlayerId) (seats : Nat) : List PlayerId :=
  (all seats).rotate first.seat

namespace PlayerId

variable {seats : Nat}

theorem length_all (few : seats ≤ 256) : (all seats).length = seats := by
  simp [all, few]

@[simp] theorem length_round (first : PlayerId) (few : seats ≤ 256) :
    (first.round seats).length = seats := by
  rw [round, List.length_rotate, length_all few]

theorem round_perm (first : PlayerId) (seats : Nat) : (first.round seats).Perm (all seats) :=
  List.rotate_perm _ _

theorem getElem?_round (first : PlayerId) (few : seats ≤ 256) {k : Nat} (below : k < seats) :
    (first.round seats)[k]? = some ⟨(first.seat + k) % seats⟩ := by
  have inRange : k < (all seats).length := by rwa [length_all few]
  rw [round, List.getElem?_rotate inRange, length_all few, Nat.add_comm k]
  have := Nat.mod_lt (first.seat + k) (Nat.zero_lt_of_lt below)
  simp [all, few, this]

end PlayerId

/-- A round of passes at a table of some size: since a seat began it, some have passed, the first
ones of them in turn order, and the holder of priority is the one who is next, or who completed the
round. -/
structure InRound (size : Nat) (first : PlayerId) (passed : List PlayerId) (s : PriorityStack) :
    Prop where
  seats : s.seats = size
  passes : s.passes = passed.length
  holder : s.priority = ⟨(first.seat + min passed.length (size - 1)) % size⟩
  inOrder : passed.take size = (first.round size).take passed.length

namespace InRound

variable {size : Nat} {first : PlayerId} {passed : List PlayerId} {s : PriorityStack}

theorem begins (seats : s.seats = size) (seated : s.priority.seat < size) (fresh : s.passes = 0) :
    InRound size s.priority [] s where
  seats := seats
  passes := fresh
  holder := by simp [Nat.mod_eq_of_lt seated]
  inOrder := by simp

theorem pass_inOrder (round : InRound size first passed s) (few : size ≤ 256) :
    (passed ++ [s.priority]).take size = (first.round size).take (passed.length + 1) := by
  by_cases short : passed.length < size
  · have before : passed = (first.round size).take passed.length := by
      have := round.inOrder
      rwa [List.take_of_length_le (Nat.le_of_lt short)] at this
    have next := first.getElem?_round few short
    have holder := round.holder
    rw [Nat.min_eq_left (by omega)] at holder
    rw [List.take_of_length_le (by simp; omega), List.take_add_one, next, ← before, holder]
    rfl
  · have complete : size ≤ passed.length := Nat.le_of_not_lt short
    rw [List.take_append_of_le_length complete, round.inOrder,
      List.take_of_length_le (by simpa [few]), List.take_of_length_le (by simp [few]; omega)]

theorem pass (round : InRound size first passed s) (some : 0 < size) (few : size ≤ 256) :
    InRound size first (passed ++ [s.priority]) s.pass.2 := by
  have inOrder := round.pass_inOrder few
  have passes := round.passes
  have holder := round.holder
  unfold PriorityStack.pass
  rw [round.seats]
  split
  · next complete =>
    refine ⟨rfl, by simp [passes], ?_, by simpa using inOrder⟩
    rw [holder, List.length_append, List.length_singleton, Nat.min_eq_right (by omega),
      Nat.min_eq_right (by omega)]
  · next incomplete =>
    refine ⟨rfl, by simp [passes], ?_, by simpa using inOrder⟩
    have next : s.priority.next size = ⟨(s.priority.seat + 1) % size⟩ :=
      congrArg PlayerId.mk (s.priority.next_seat some few)
    rw [next, holder, List.length_append, List.length_singleton, Nat.min_eq_left (by omega),
      Nat.min_eq_left (by omega), Nat.mod_add_mod, Nat.add_assoc]

theorem complete (round : InRound size first passed s) (few : size ≤ 256)
    (all : size ≤ passed.length) : (passed.take size).Perm (PlayerId.all size) := by
  rw [round.inOrder, List.take_of_length_le (by simpa [few])]
  exact first.round_perm size

theorem perform (round : InRound size first passed s) (some : 0 < size) (few : size ≤ 256)
    {move : StackMove} (seated : move.Seated size) :
    ∃ start, (move.restarts = false → start = first) ∧
      InRound size start ((s.beats [move]).foldl Beat.passedAfter passed) (move.perform s) := by
  have inRange : s.priority.seat < size := by
    rw [round.holder]
    exact Nat.mod_lt _ some
  cases move with
  | push u => exact ⟨s.priority, nofun, .begins (s := s.push u) round.seats inRange rfl⟩
  | pop => exact ⟨first, fun _ => rfl, round.seats, round.passes, round.holder, round.inOrder⟩
  | acted => exact ⟨s.priority, nofun, .begins (s := s.acted) round.seats inRange rfl⟩
  | pass => exact ⟨first, fun _ => rfl, round.pass some few⟩
  | resetPriority active =>
    exact ⟨active, nofun, .begins (s := s.resetPriority active) round.seats seated rfl⟩

theorem performAll (round : InRound size first passed s) (some : 0 < size) (few : size ≤ 256)
    (moves : List StackMove) (seated : ∀ move ∈ moves, move.Seated size) :
    ∃ start, ((∀ move ∈ moves, move.restarts = false) → start = first) ∧
      InRound size start ((s.beats moves).foldl Beat.passedAfter passed)
        (StackMove.performAll s moves) := by
  induction moves generalizing first passed s with
  | nil => exact ⟨first, fun _ => rfl, round⟩
  | cons move rest ih =>
    obtain ⟨middle, same, next⟩ := round.perform some few (seated move (.head _))
    obtain ⟨start, same', later⟩ := ih next fun m mem => seated m (.tail _ mem)
    refine ⟨start, fun quiet => ?_, ?_⟩
    · exact (same' fun m mem => quiet m (.tail _ mem)).trans (same (quiet move (.head _)))
    · rw [s.beats_cons, List.foldl_append]
      exact later

end InRound

/-- From one game to a later one the same player's turn went on, and nothing was done to the stack
but putting uses on it, each of which starts the count of passes afresh. -/
structure Pushes (g h : Game) : Prop where
  active : h.turn.active = g.turn.active
  stack : ∃ added, h.stack = { g.stack with
    entries := g.stack.entries ++ added
    passes := if added.isEmpty then g.stack.passes else 0 }

structure Stirs (g h : Game) : Prop where
  active : h.turn.active = g.turn.active
  stack : ∃ entries, h.stack = { g.stack with entries := entries, passes := 0 }

namespace Pushes

variable {f g h : Game}

theorem of_eq (active : h.turn.active = g.turn.active) (stack : h.stack = g.stack) : Pushes g h :=
  ⟨active, [], by simp [stack]⟩

theorem refl (g : Game) : Pushes g g :=
  .of_eq rfl rfl

theorem trans (first : Pushes f g) (next : Pushes g h) : Pushes f h := by
  obtain ⟨added, first_eq⟩ := first.stack
  obtain ⟨added', next_eq⟩ := next.stack
  refine ⟨next.active.trans first.active, added ++ added', ?_⟩
  rw [next_eq, first_eq]
  cases added <;> cases added' <;> simp

theorem push (g : Game) (u : AbilityUse) : Pushes g (g.modifyStack (·.push u)) :=
  ⟨rfl, [u], rfl⟩

theorem stirs (pushes : Pushes f g) (stirs : Stirs g h) : Stirs f h := by
  obtain ⟨added, first⟩ := pushes.stack
  obtain ⟨entries, next⟩ := stirs.stack
  exact ⟨stirs.active.trans pushes.active, entries, by rw [next, first]⟩

theorem firing (g : Game) : KeptByFiring (fun _ => True) (Pushes g) :=
  .of_blind (fun _ _ _ start => start.trans (.of_eq rfl rfl))
    (fun _ _ start => start.trans (.of_eq rfl rfl))
    (fun _ _ _ _ => trivial) (fun _ start => start.trans (.of_eq rfl rfl))
    fun h u start _ => start.trans (.push h u)

theorem kept (g : Game) : KeptByChanges (Pushes g) :=
  .of_writes (fun start writes => start.trans (.of_eq (by rw [writes.turn]) writes.stack))
    fun _ _ => (firing g).keeps_emit (fun _ start => start.trans (.of_eq rfl rfl))
      fun _ start => start.trans (.of_eq rfl rfl)

end Pushes

namespace Stirs

variable {f g h : Game}

theorem pushed (stirs : Stirs f g) (pushes : Pushes g h) : Stirs f h := by
  obtain ⟨entries, first⟩ := stirs.stack
  obtain ⟨added, next⟩ := pushes.stack
  refine ⟨pushes.active.trans stirs.active, entries ++ added, ?_⟩
  rw [next, first]
  cases added <;> simp

theorem push (g : Game) (u : AbilityUse) : Stirs g (g.modifyStack (·.push u)) :=
  ⟨rfl, g.stack.entries ++ [u], rfl⟩

theorem acted (g : Game) : Stirs g (g.modifyStack (·.acted)) :=
  ⟨rfl, g.stack.entries, rfl⟩

end Stirs

/-- A property that all that leads up to an action of a player keeps, and another one to which the
action itself leads: a use that is put on the stack, or the note that someone acted. -/
structure KeptUntilActing (before after : Game → Prop) : Prop
    extends KeptByEffects (fun _ _ => True) before where
  mark : ∀ {f}, Marks f → ∀ g c, before g → before (g.modifyCard c f)
  counted : ∀ g n, before g → before { g with turn := { g.turn with sourcesPlayed := n } }
  numbered : ∀ g, before g → before { g with nextUse := g.nextUse + 1 }
  pushed : ∀ g u, before g → after (g.modifyStack (·.push u))
  acted : ∀ g, before g → after (g.modifyStack (·.acted))
  told : ∀ c, Step.Keeps after (Step.emit .play (.card c))

namespace KeptUntilActing

open Act

variable {before after : Game → Prop} (k : KeptUntilActing before after)
include k

theorem keeps_moveToStack (c : CardId) : Keeps before (moveCard c .stack .top) :=
  k.send fun _ => ⟨0, .player (.shuffle none [.stack]), trivial, rfl⟩

theorem keeps_pay (c : CardId) (costs : List CostSymbol) (x : Amount) :
    Keeps before (pay c costs x) :=
  keeps_pay_with k.announce k.store (fun _ g => k.mark (fun _ => rfl) g c)
    (fun _ g => k.mark (fun _ => rfl) g c) x

theorem keeps_nextUseId : Keeps before (liftM Step.nextUseId) :=
  keeps_lift (Step.keeps_nextUseId k.numbered)

theorem leads_playUse (u : AbilityUse) :
    Leads before (liftM (Step.playUse Step.emit u)) (fun _ => after) before :=
  leads_lift fun h start => k.pushed _ _ (k.keeps_pickUse u h start)

theorem leads_castFor (p : PlayerId) (c : CardId) (i : CardInstance) (field : Option Nat)
    (x : Amount) :
    Leads before (castFor p c i field x) (fun _ => after) before :=
  (k.keeps_pay c _ x).leads.bind fun _ => k.keeps_nextUseId.leads.bind fun _ =>
    (k.keeps_moveToStack c).leads.bind fun _ => k.leads_playUse _

theorem leads_activateFor (p : PlayerId) (c : CardId) (a : Activated) (x : Amount) :
    Leads before (activateFor p c a x) (fun _ => after) before := by
  refine (k.keeps_pay c _ x).leads.bind fun _ => k.keeps_nextUseId.leads.bind fun _ =>
    (k.keeps_payActions fun _ _ => trivial).leads.bind fun _ => ?_
  split
  · exact (keeps_lift (k.keeps_pickUse _)).leads.bind fun _ =>
      (k.keeps_resolveUse fun _ _ => trivial).leads.bind fun _ => leads_modifyThe k.acted
  · exact k.leads_playUse _

theorem leads_cast (p : PlayerId) (c : CardId) (field : Option Nat) :
    Leads before (cast p c field) (fun _ => after) before := by
  refine (keeps_inHand p c).leads.bind fun i => (keeps_checkPriority p).leads.bind fun _ => ?_
  refine keeps_getThe.leads.bind fun _ => (keeps_require _ _).leads.bind fun _ => ?_
  dsimp only
  split
  · exact ((keeps_fieldFor p c field).map _).leads.bind fun _ =>
      (k.keeps_affordableX p c _ _).leads.bind fun _ => k.leads_castFor p c i _ _
  · exact (keeps_pure _).leads.bind fun _ => (k.keeps_affordableX p c _ _).leads.bind fun _ =>
      k.leads_castFor p c i _ _

theorem leads_activate (p : PlayerId) (c : CardId) (index : Nat) :
    Leads before (activate p c index) (fun _ => after) before := by
  refine (keeps_card c).leads.bind fun i => (keeps_require _ _).leads.bind fun _ => ?_
  split
  · exact leads_throw fun _ start => start
  · next a _ =>
    exact (keeps_checkPriority p).leads.bind fun _ => keeps_getThe.leads.bind fun _ =>
      (keeps_require _ _).leads.bind fun _ => (k.keeps_affordableX p c _ _).leads.bind
        fun x => k.leads_activateFor p c a x

theorem leads_playSource (p : PlayerId) (c : CardId) :
    Leads before (playSource p c) (fun _ => after) before := by
  refine (keeps_inHand p c).leads.bind fun _ => (keeps_checkPriority p).leads.bind fun _ =>
    keeps_getThe.leads.bind fun _ => (keeps_require _ _).leads.bind fun _ =>
    (keeps_require _ _).leads.bind fun _ => (keeps_require _ _).leads.bind fun _ => ?_
  refine (keeps_changeCard fun g start => k.mark (fun _ => rfl) g c start).leads.bind fun _ =>
    (k.keeps_send rfl).leads.bind fun _ => ?_
  refine Leads.bind (Q := fun _ => before)
    (leads_modifyThe fun h start => k.counted h _ start) fun _ => ?_
  exact Leads.bind (Q := fun _ => after) (leads_modifyThe k.acted) fun _ => leads_lift (k.told c)

theorem leadsByActing : LeadsByActing before after where
  saying := k.saying
  cast := k.leads_cast
  activate := k.leads_activate
  playSource := k.leads_playSource

end KeptUntilActing

theorem Stirs.keptUntil (g : Game) : KeptUntilActing (Pushes g) (Stirs g) where
  toKeptByEffects := (Pushes.kept g).toKeptByWrites.toKeptByEffects
  mark := (Pushes.kept g).mark
  counted _ _ start := start.trans (.of_eq rfl rfl)
  numbered _ start := start.trans (.of_eq rfl rfl)
  pushed h u start := start.stirs (.push h u)
  acted h start := start.stirs (.acted h)
  told _ h start := start.pushed ((Pushes.kept h).emit _ _ h (.refl h))

namespace Step

variable {g : Game}

theorem ends_actOrPass_of {before after start idle : Game → Prop} (led : LeadsByActing before after)
    (asked : ∀ p options, Ends start (chooseOne p (.card options))
      fun chosen h => idle h ∧ (chosen.isSome → before h))
    (rests : ∀ h, before h → idle h) (stays : ∀ h, start h → idle h) (saying : KeptByTalk idle)
    (actions : Nat) :
    Ends start (actOrPass actions) fun acted h => if acted then after h else idle h := by
  refine (keeps_get.ends).bind fun known => ?_
  dsimp only
  split
  · exact ends_pure stays
  · split
    · exact led.ends_takeAction (asked _) rests
    · refine Ends.bind (Q := fun _ => idle) (fun h waiting => ?_) fun _ =>
        ends_pure fun _ left => left
      exact saying.notice _ rfl h (stays h waiting)

theorem ends_actOrPass (actions : Nat) :
    Ends (fun h => h = g) (actOrPass actions) fun acted h => if acted then Stirs g h else
      Pushes g h := by
  have talk := (Pushes.kept g).toKeptByWrites.saying
  refine Ends.weaken (P := Pushes g) ?_ (fun h same => same ▸ .refl h) fun _ _ after => after
  refine ends_actOrPass_of (Stirs.keptUntil g).leadsByActing (fun p options h start => ?_)
    (fun _ start => start) (fun _ start => start) talk actions
  have asked := keeps_chooseOne_of_asking (talk.asking p) (.card options) h start
  exact ⟨asked, fun _ => asked⟩

section Beats

variable {g h k : Game} {bound actions : Nat}

theorem run_if_of_true {α : Type} {test : Step Bool} (ran : StateT.run test g = (true, h))
    (yes no : Step α) :
    StateT.run (do if ← test then yes else no) g = StateT.run yes h := by
  rw [StateT.run_bind, ran]
  rfl

theorem run_if_of_false {α : Type} {test : Step Bool} (ran : StateT.run test g = (false, h))
    (yes no : Step α) :
    StateT.run (do if ← test then yes else no) g = StateT.run no h := by
  rw [StateT.run_bind, ran]
  rfl

theorem runPhaseWithin_of_acted (acts : StateT.run (actOrPass actions) g = (true, h)) :
    StateT.run (runPhaseWithin (bound + 1) actions) g =
      StateT.run (runPhaseWithin bound (actions + 1)) h :=
  run_if_of_true acts _ _

theorem runPhaseWithin_of_passed {ended : Bool}
    (acts : StateT.run (actOrPass actions) g = (false, h))
    (ends : StateT.run passRound h = (ended, k)) :
    StateT.run (runPhaseWithin (bound + 1) actions) g =
      if ended then (some (), k) else StateT.run (runPhaseWithin bound 0) k := by
  refine (run_if_of_false acts _ _).trans ?_
  cases ended with
  | true => exact run_if_of_true ends _ _
  | false => exact run_if_of_false ends _ _

end Beats

structure Sits (g h : Game) : Prop where
  active : h.turn.active = g.turn.active
  seats : h.stack.seats = g.stack.seats

theorem Sits.pushed {f g h : Game} (sits : Sits f g) (pushes : Pushes g h) : Sits f h := by
  obtain ⟨added, same⟩ := pushes.stack
  exact ⟨pushes.active.trans sits.active, by rw [same]; exact sits.seats⟩

theorem passRound_cases (g : Game) :
    let passed := g.modifyStack (·.pass.2)
    g.stack.pass.1 = false ∧ StateT.run passRound g = (false, passed) ∨
      g.stack.pass.1 = true ∧
        ((passed.stack.isEmpty || passed.isOver) = true ∧ StateT.run passRound g = (true, passed) ∨
          (passed.stack.isEmpty || passed.isOver) = false ∧
            StateT.run passRound g = (false, (StateT.run resolveRound passed).2)) := by
  intro passed
  have run : StateT.run passRound g = StateT.run (do
      if !g.stack.pass.1 then
        return false
      else
        let g ← get
        if g.stack.isEmpty || g.isOver then
          return true
        else
          resolveRound
          return false : Step Bool) passed := rfl
  rw [run]
  cases all : g.stack.pass.1 with
  | false => exact .inl ⟨rfl, rfl⟩
  | true =>
    refine .inr ⟨rfl, ?_⟩
    cases ended : passed.stack.isEmpty || passed.isOver with
    | true =>
      refine .inl ⟨rfl, ?_⟩
      change StateT.run (if (passed.stack.isEmpty || passed.isOver) = true then _ else _) passed = _
      rw [ended]
      rfl
    | false =>
      refine .inr ⟨rfl, ?_⟩
      change StateT.run (if (passed.stack.isEmpty || passed.isOver) = true then _ else _) passed = _
      rw [ended]
      rfl

end Step

namespace Beat

/-- Beats of which those that take everyone's consent come when everyone has passed once in a
row. -/
def Heeded (size : Nat) (passed : List PlayerId) (beats : List Beat) : Prop :=
  ∀ before b after, beats = before ++ b :: after → b.decides →
    ((before.foldl passedAfter passed).take size).Perm (PlayerId.all size)

namespace Heeded

variable {size : Nat} {passed : List PlayerId} {beats : List Beat}

theorem nil (size : Nat) (passed : List PlayerId) : Heeded size passed [] :=
  fun _ _ _ same => nomatch (List.append_eq_nil_iff.1 same.symm).2

theorem cons {b : Beat} (consent : b.decides → (passed.take size).Perm (PlayerId.all size))
    (rest : Heeded size (b.passedAfter passed) beats) : Heeded size passed (b :: beats) := by
  intro before d after same decides
  cases before with
  | nil =>
    obtain ⟨rfl, -⟩ := List.cons_eq_cons.1 same
    exact consent decides
  | cons c before =>
    obtain ⟨rfl, later⟩ := List.cons_eq_cons.1 same
    exact rest before d after later decides

end Heeded

end Beat

section Rounds

variable {size : Nat} {g h : Game} {first : PlayerId} {passed : List PlayerId}

end Rounds

theorem InRound.initial {size : Nat} (some : 0 < size) : InRound size ⟨0⟩ [] (.initial size) :=
  .begins (s := .initial size) rfl some rfl

end CardGame
