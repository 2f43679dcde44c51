import CardGame.Proofs.Rounds
import Mathlib.Algebra.GroupWithZero.Nat

/-!
Phases end when decisions run out. Players whose choosers read scripts act only as long as replies
are left, and every action uses one up. Without triggered abilities nothing goes on the stack but
what an action puts there, so what waits is resolved after at most as many actions as there are
replies, and then everyone passes.
-/

namespace CardGame

def Chooser.HasLeft (c : Chooser) (n : Nat) : Prop :=
  ∃ replies, c.strategy = .script replies ∧ replies.length ≤ Strategy.questions c.past + n

namespace Chooser.HasLeft

variable {c : Chooser} {n : Nat}

theorem reveal (left : c.HasLeft n) (cards : List CardId) : (c.reveal cards).HasLeft n := by
  obtain ⟨replies, script, few⟩ := left
  exact ⟨replies, script, by simpa [Chooser.reveal, Strategy.questions] using few⟩

theorem ask (left : c.HasLeft n) (prompt : Prompt) : (c.ask prompt).2.HasLeft n := by
  obtain ⟨replies, script, few⟩ := left
  refine ⟨replies, script, Nat.le_trans few ?_⟩
  simp only [Chooser.ask, Strategy.questions, List.countP_cons]
  omega

theorem ask_of_pick (left : c.HasLeft n) {prompt : Prompt} {i : Nat}
    (picks : (c.ask prompt).1 = .pick i) :
    0 < n ∧ (c.ask prompt).2.HasLeft (n - 1) := by
  obtain ⟨replies, script, few⟩ := left
  have unread : Strategy.questions c.past < replies.length := by
    by_contra beyond
    have none : replies[Strategy.questions c.past]? = none :=
      List.getElem?_eq_none (Nat.le_of_not_lt beyond)
    simp only [Chooser.ask, script, Strategy.script, none, Option.getD_none] at picks
    unfold Reply.forPrompt at picks
    split at picks <;> simp_all
  have asked : Strategy.questions (c.ask prompt).2.past = Strategy.questions c.past + 1 := by
    simp [Chooser.ask, Strategy.questions]
  exact ⟨by omega, replies, script, by omega⟩

end Chooser.HasLeft

def Game.RepliesBelow (g : Game) (n : Nat) : Prop :=
  ∃ left : List Nat, List.Forall₂ Chooser.HasLeft g.choosers.entries left ∧ left.sum < n

theorem forall₂_modify {α β : Type} {R : α → β → Prop} {f : α → α} {as : List α} {bs : List β}
    (related : List.Forall₂ R as bs) (kept : ∀ a b, R a b → R (f a) b) (k : Nat) :
    List.Forall₂ R (as.modify k f) bs := by
  induction related generalizing k with
  | nil => rw [List.modify_nil]; exact .nil
  | cons first rest ih =>
    cases k with
    | zero => exact .cons (kept _ _ first) rest
    | succ k => exact .cons first (ih k)

theorem exists_left_of_pick {choosers : List Chooser} {left : List Nat}
    (each : List.Forall₂ Chooser.HasLeft choosers left) {k : Nat} {c : Chooser}
    (seated : choosers[k]? = some c)
    {prompt : Prompt} {i : Nat} (picks : (c.ask prompt).1 = .pick i) :
    ∃ fewer, List.Forall₂ Chooser.HasLeft (choosers.modify k fun c => (c.ask prompt).2) fewer ∧
      fewer.sum + 1 = left.sum := by
  induction each generalizing k with
  | nil => exact nomatch seated
  | @cons d n _ rest first others ih =>
    cases k with
    | zero =>
      obtain rfl := Option.some.inj seated
      obtain ⟨some, spent⟩ := first.ask_of_pick picks
      refine ⟨(n - 1) :: rest, .cons spent others, ?_⟩
      rw [List.sum_cons, List.sum_cons]
      omega
    | succ k =>
      obtain ⟨fewer, later, sum⟩ := ih seated
      refine ⟨n :: fewer, .cons first later, ?_⟩
      rw [List.sum_cons, List.sum_cons]
      omega

namespace Game.RepliesBelow

variable {g h : Game} {n : Nat}

theorem of_choosers (replies : g.RepliesBelow n) (choosers : h.choosers = g.choosers) :
    h.RepliesBelow n := by
  rwa [RepliesBelow, choosers]

theorem mono {m : Nat} (replies : g.RepliesBelow n) (less : n ≤ m) : g.RepliesBelow m := by
  obtain ⟨left, each, below⟩ := replies
  exact ⟨left, each, Nat.lt_of_lt_of_le below less⟩

theorem modify (replies : g.RepliesBelow n) (p : PlayerId) {f : Chooser → Chooser}
    (kept : ∀ c k, Chooser.HasLeft c k → (f c).HasLeft k) :
    { g with choosers := g.choosers.modify p f }.RepliesBelow n := by
  obtain ⟨left, each, below⟩ := replies
  exact ⟨left, forall₂_modify each kept p.seat, below⟩

theorem exists_of_scripts
    (scripted : ∀ c ∈ g.choosers.entries, ∃ replies, c.strategy = .script replies) :
    ∃ n, g.RepliesBelow n := by
  have each : ∀ cs : List Chooser, (∀ c ∈ cs, ∃ replies, c.strategy = .script replies) →
      ∃ left, List.Forall₂ Chooser.HasLeft cs left := by
    intro cs
    induction cs with
    | nil => exact fun _ => ⟨[], .nil⟩
    | cons c rest ih =>
      intro scripted
      obtain ⟨replies, script⟩ := scripted c (.head _)
      obtain ⟨left, later⟩ := ih fun d mem => scripted d (.tail _ mem)
      exact ⟨replies.length :: left, .cons ⟨replies, script, Nat.le_add_left _ _⟩ later⟩
  obtain ⟨left, counted⟩ := each _ scripted
  exact ⟨left.sum + 1, left, counted, Nat.lt_succ_self _⟩

end Game.RepliesBelow

/-- A game in which nothing is triggered: no card has a triggered ability. Fewer replies than a
number are left, and the stack is known. -/
structure Calm (s : PriorityStack) (n : Nat) (g : Game) : Prop where
  untriggered : g.Templates fun c => c.triggered = []
  replies : g.RepliesBelow n
  stack : g.stack = s

namespace Calm

open Step

variable {s : PriorityStack} {n : Nat} {g h : Game}

theorem of_eq (calm : Calm s n g) (cards : h.cards = g.cards) (choosers : h.choosers = g.choosers)
    (stack : h.stack = g.stack) : Calm s n h :=
  ⟨calm.untriggered.of_cards cards, calm.replies.of_choosers choosers, stack.trans calm.stack⟩

theorem mono {m : Nat} (calm : Calm s n g) (less : n ≤ m) : Calm s m g :=
  { calm with replies := calm.replies.mono less }

theorem modifyStack (calm : Calm s n g) (f : PriorityStack → PriorityStack) :
    Calm (f s) n (g.modifyStack f) :=
  ⟨calm.untriggered, calm.replies, congrArg f calm.stack⟩

theorem ends_ask (p : PlayerId) (prompt : Prompt) :
    Ends (Calm s (n + 1)) (ask p prompt) fun reply h =>
      Calm s (n + 1) h ∧ ∀ i, reply = .pick i → Calm s n h := by
  have read : Ends (Calm s (n + 1)) get fun known h => known = h ∧ Calm s (n + 1) h :=
    ends_get fun h calm => ⟨rfl, calm⟩
  refine read.bind fun known => ?_
  split
  · exact ends_pure fun h left => ⟨left.2, nofun⟩
  · next chooser found =>
    rintro h ⟨rfl, calm⟩
    refine ⟨⟨calm.untriggered, calm.replies.modify p fun c k left => left.ask prompt,
      calm.stack⟩, ?_⟩
    intro i picks
    obtain ⟨left, each, below⟩ := calm.replies
    obtain ⟨fewer, spent, sum⟩ := exists_left_of_pick each found picks
    exact ⟨calm.untriggered, ⟨fewer, spent, by omega⟩, calm.stack⟩

theorem keeps_ask (p : PlayerId) (prompt : Prompt) : Keeps (Calm s n) (ask p prompt) := by
  cases n with
  | zero =>
    intro g calm
    obtain ⟨left, -, below⟩ := calm.replies
    exact absurd below (Nat.not_lt_zero _)
  | succ n => exact fun g calm => (ends_ask p prompt g calm).1

theorem saying : KeptByTalk (Calm s n) where
  ask := keeps_ask
  reveal p cards := by
    refine keeps_get.bind fun known => ?_
    split
    · exact keeps_modify fun g calm =>
        ⟨calm.untriggered, calm.replies.modify p fun c k left => left.reveal cards, calm.stack⟩
    · exact keeps_pure ()
  notice _ _ := keeps_modify fun g calm => calm.of_eq rfl rfl rfl

theorem ends_chooseOne (p : PlayerId) (prompt : Prompt) :
    Ends (Calm s (n + 1)) (chooseOne p prompt) fun chosen h =>
      Calm s (n + 1) h ∧ (chosen.isSome → Calm s n h) := by
  have within : ∀ tries, Ends (Calm s (n + 1)) (chooseOneWithin p prompt tries) fun chosen h =>
      Calm s (n + 1) h ∧ (chosen.isSome → Calm s n h) := by
    intro tries
    induction tries with
    | zero => exact ends_pure fun h calm => ⟨calm, nofun⟩
    | succ tries ih =>
      refine (ends_ask p prompt).bind fun reply => ?_
      split
      · next i =>
        split
        · exact ends_pure fun h left => ⟨left.1, fun _ => left.2 i rfl⟩
        · refine Ends.bind (Q := fun _ => Calm s (n + 1)) (fun h left => ?_) fun _ => ih
          exact saying.notice (.answerOutOfRange p i prompt.size) rfl h left.1
      · exact ends_pure fun h left => ⟨left.1, nofun⟩
  unfold chooseOne
  split
  · exact ends_pure fun h calm => ⟨calm, nofun⟩
  · exact (keeps_maxTries.ends).bind within

theorem firing : KeptByFiring (fun _ => False) (Calm s n) where
  targeting := saying.targeting
  triggered calm found listed _ := by
    rw [calm.untriggered _ _ found] at listed
    exact nomatch listed
  numbered _ calm := calm.of_eq rfl rfl rfl
  pushed _ _ _ never := never.elim
  handled _ _ _ calm := calm.of_eq rfl rfl rfl
  target _ _ calm := calm.of_eq rfl rfl rfl
  dropped _ _ calm := calm.of_eq rfl rfl rfl
  returned _ calm := calm.of_eq rfl rfl rfl

theorem keeps_emit (kind : EventKind) (subject : ObjectRef) :
    Keeps (Calm s n) (emit kind subject) :=
  firing.keeps_emit (fun _ calm => calm.of_eq rfl rfl rfl) fun _ calm => calm.of_eq rfl rfl rfl

theorem kept : KeptByEffects (fun _ _ => True) (Calm s n) :=
  .of_templates saying keeps_emit (fun _ _ _ _ calm => calm.of_eq rfl rfl rfl)
    (fun template _ c calm => ⟨calm.untriggered.modifyCard template c, calm.replies, calm.stack⟩)
    fun owner _ _ _ _ calm => ⟨calm.untriggered.addCard owner rfl .stack, calm.replies, calm.stack⟩

end Calm

def Acted (s : PriorityStack) (n : Nat) (g : Game) : Prop :=
  ∃ t, Calm t n g ∧ t.seats = s.seats ∧ t.entries.length ≤ s.entries.length + 1

namespace Calm

open Step

variable {s : PriorityStack} {n : Nat} {g h : Game}

theorem keptUntil : KeptUntilActing (Calm s n) (Acted s n) where
  toKeptByEffects := kept
  mark marks g c calm :=
    ⟨calm.untriggered.modifyCard (fun i => by rw [marks i]) c, calm.replies, calm.stack⟩
  counted _ _ calm := calm.of_eq rfl rfl rfl
  numbered _ calm := calm.of_eq rfl rfl rfl
  pushed _ u calm := ⟨_, calm.modifyStack (·.push u), rfl, by simp [PriorityStack.push]⟩
  acted _ calm := ⟨_, calm.modifyStack (·.acted), rfl, Nat.le_succ _⟩
  told _ _ acted := by
    obtain ⟨t, calm, same⟩ := acted
    exact ⟨t, keeps_emit _ _ _ calm, same⟩

theorem ends_actOrPass (actions : Nat) :
    Ends (Calm s (n + 1)) (actOrPass actions) fun acted h =>
      if acted then Acted s n h else Calm s (n + 1) h :=
  ends_actOrPass_of keptUntil.leadsByActing (fun _ _ => ends_chooseOne _ _)
    (fun _ calm => calm.mono (Nat.le_succ n)) (fun _ calm => calm) saying actions

theorem ends_resolveTop :
    Ends (Calm s n) (Act.outcome Act.resolveTop) fun _ => Calm s.pop.2 n := by
  intro g calm
  change Calm s.pop.2 n (StateT.run (ExceptT.run Act.resolveTop) g).2
  cases top : g.stack.entries.getLast? with
  | none =>
    rw [Act.resolveTop_of_empty top]
    have empty : s.entries = [] := calm.stack ▸ List.getLast?_eq_none_iff.1 top
    have same : s.pop.2 = s := by
      rw [PriorityStack.pop, empty, List.dropLast_nil, ← empty]
    rwa [same]
  | some u =>
    rw [Act.resolveTop_of_top top]
    have rest : Act.Keeps (Calm s.pop.2 n) (do Act.resolveUse u; return true : Act Bool) :=
      (kept.keeps_resolveUse fun _ _ => trivial).bind fun _ => Act.keeps_pure _
    exact rest _ (calm.modifyStack (·.pop.2))

theorem ends_resolveRound :
    Ends (Calm s n) resolveRound fun _ h => ∃ active, Calm (s.pop.2.resetPriority active) n h := by
  have reset : Ends (Calm s.pop.2 n) (modify fun g =>
    g.modifyStack (·.resetPriority g.turn.active) : Step Unit)
      fun _ h => ∃ active, Calm (s.pop.2.resetPriority active) n h :=
    fun g calm => ⟨g.turn.active, calm.modifyStack (·.resetPriority g.turn.active)⟩
  refine ends_resolveTop.bind fun result => ?_
  cases result with
  | ok _ => exact reset
  | error e => exact (saying.notice (.resolutionFailed e) rfl).ends.bind fun _ => reset

end Calm

/-- What is left to do before a phase is over, counted so that each step takes at least one off: an
action costs a reply and may leave a use to resolve, and once one is resolved everyone may pass
again. -/
def PriorityStack.toDo (s : PriorityStack) (n : Nat) : Nat :=
  n * (2 * s.seats + 3) + s.entries.length * (s.seats + 1) + (s.seats - s.passes)

namespace PriorityStack

variable {s t : PriorityStack} {n : Nat}

theorem toDo_of_acted (seats : t.seats = s.seats)
    (grown : t.entries.length ≤ s.entries.length + 1) :
    t.toDo n < s.toDo (n + 1) := by
  have waits := Nat.mul_le_mul_right (s.seats + 1) grown
  have top := Nat.add_one_mul s.entries.length (s.seats + 1)
  have reply := Nat.add_one_mul n (2 * s.seats + 3)
  rw [toDo, toDo, seats]
  omega

theorem toDo_of_pass (goes : s.pass.1 = false) : s.pass.2.toDo n < s.toDo n := by
  unfold pass at goes ⊢
  split
  · next all =>
    rw [if_pos all] at goes
    exact nomatch goes
  · next few =>
    rw [toDo, toDo]
    dsimp only
    omega

theorem toDo_of_resolved (waits : s.isEmpty = false) (active : PlayerId) :
    (s.pass.2.pop.2.resetPriority active).toDo n < s.toDo n := by
  have fewer : s.pass.2.pop.2.entries.length + 1 = s.entries.length := by
    have some : s.entries ≠ [] := fun none => by simp [isEmpty, none] at waits
    have := List.length_pos_iff.2 some
    rw [pop, List.length_dropLast, entries_pass]
    omega
  have seats : s.pass.2.pop.2.seats = s.seats := s.seats_pass
  change n * (2 * s.pass.2.pop.2.seats + 3) +
    s.pass.2.pop.2.entries.length * (s.pass.2.pop.2.seats + 1)
    + (s.pass.2.pop.2.seats - 0) < s.toDo n
  have top := Nat.add_one_mul s.pass.2.pop.2.entries.length (s.seats + 1)
  rw [seats, toDo, ← fewer]
  omega

end PriorityStack

namespace Step

variable {s : PriorityStack} {n : Nat} {g h : Game}

/-- A phase in which nothing is triggered is over once as much is done as there is to do. -/
theorem exists_runPhaseWithin (bound actions : Nat) (calm : Calm s n g)
    (enough : s.toDo n < bound) :
    ∃ h, StateT.run (runPhaseWithin bound actions) g = (some (), h) ∧
      (h.stack.isEmpty || h.isOver) = true := by
  induction bound generalizing actions s n g with
  | zero => exact absurd enough (Nat.not_lt_zero _)
  | succ bound ih =>
    cases n with
    | zero =>
      obtain ⟨left, -, below⟩ := calm.replies
      exact absurd below (Nat.not_lt_zero _)
    | succ n =>
      have acted := Calm.ends_actOrPass actions g calm
      rcases acts : StateT.run (actOrPass actions) g with ⟨_ | _, h⟩
      · rw [acts] at acted
        have calm : Calm s (n + 1) h := acted
        have passed : Calm s.pass.2 (n + 1) (h.modifyStack (·.pass.2)) :=
          calm.modifyStack (·.pass.2)
        rcases passRound_cases h with ⟨goes, ends⟩ | ⟨-, ⟨settled, ends⟩ | ⟨waits, ends⟩⟩
        · have less := PriorityStack.toDo_of_pass (n := n + 1) (calm.stack ▸ goes)
          obtain ⟨k, run, settled⟩ := ih 0 passed (by omega)
          exact ⟨k, (runPhaseWithin_of_passed acts ends).trans run, settled⟩
        · exact ⟨_, runPhaseWithin_of_passed acts ends, settled⟩
        · obtain ⟨active, resolved⟩ := Calm.ends_resolveRound _ passed
          have some : s.isEmpty = false := by
            have empty : h.stack.pass.2.entries.isEmpty = false := (Bool.or_eq_false_iff.1 waits).1
            rwa [PriorityStack.entries_pass, calm.stack] at empty
          have less := PriorityStack.toDo_of_resolved (n := n + 1) some active
          obtain ⟨k, run, settled⟩ := ih 0 resolved (by omega)
          exact ⟨k, (runPhaseWithin_of_passed acts ends).trans run, settled⟩
      · rw [acts] at acted
        obtain ⟨t, stirred, seats, grown⟩ : Acted s n h := acted
        have less := PriorityStack.toDo_of_acted seats grown (n := n)
        obtain ⟨k, run, settled⟩ := ih (actions + 1) stirred (by omega)
        exact ⟨k, (runPhaseWithin_of_acted acts).trans run, settled⟩

theorem runPhaseWithin_mono {bound more : Nat} (actions : Nat)
    (done : StateT.run (runPhaseWithin bound actions) g = (some (), h)) (le : bound ≤ more) :
    StateT.run (runPhaseWithin more actions) g = (some (), h) := by
  induction bound generalizing more actions g with
  | zero => exact nomatch congrArg Prod.fst done
  | succ bound ih =>
    obtain ⟨more, rfl⟩ := Nat.exists_eq_add_of_le' (Nat.le_trans (Nat.le_add_left 1 bound) le)
    have le : bound ≤ more := Nat.le_of_succ_le_succ le
    rcases acts : StateT.run (actOrPass actions) g with ⟨_ | _, k⟩
    · rcases ends : StateT.run passRound k with ⟨_ | _, l⟩
      · rw [runPhaseWithin_of_passed acts ends] at done ⊢
        exact ih 0 done le
      · rw [runPhaseWithin_of_passed acts ends] at done ⊢
        exact done
    · rw [runPhaseWithin_of_acted acts] at done ⊢
      exact ih (actions + 1) done le

end Step

/-- When every chooser reads a script and no card has a triggered ability, a phase ends, however
many actions and tries the format allows; then nothing waits on the stack, or the game is
decided. -/
theorem Game.phase_ends {g : Game} (untriggered : ∀ i ∈ g.cards, i.card.triggered = [])
    (scripted : ∀ c ∈ g.choosers.entries, ∃ replies, c.strategy = .script replies) :
    ∃ bound h, (∀ more, bound ≤ more → StateT.run (Step.runPhase more) g = (some (), h)) ∧
      (h.stack.isEmpty = true ∨ h.isOver = true) := by
  obtain ⟨n, replies⟩ := Game.RepliesBelow.exists_of_scripts scripted
  have templates : g.Templates fun c => c.triggered = [] :=
    fun c i found => untriggered i (Array.mem_of_getElem? found)
  obtain ⟨h, done, settled⟩ := Step.exists_runPhaseWithin (g.stack.toDo n + 1) 0 ⟨templates,
    replies, rfl⟩
    (Nat.lt_succ_self _)
  exact ⟨_, h, fun more le => Step.runPhaseWithin_mono 0 done le, Bool.or_eq_true_iff.1 settled⟩

theorem phase_ends_squire :
    ∃ start, Game.create {} [⟨[(Card.blank "Squire").withKind ⟨.unit, false⟩],
        .script [.pick 0, .pick 0, .pick 0]⟩, ⟨[], .script []⟩] = .ok start ∧
      let g := Operation.performAll start [.draw ⟨0⟩ 1, .enterPhase .play]
      ((StateT.run (Step.runPhase 10) g).2.card? ⟨0⟩).map CardInstance.zone = some .board ∧
      ∃ bound h, (∀ more, bound ≤ more → StateT.run (Step.runPhase more) g = (some (), h)) ∧
        (h.stack.isEmpty = true ∨ h.isOver = true) := by
  refine ⟨_, rfl, by decide +kernel, ?_⟩
  refine Game.phase_ends (by decide +kernel) fun c mem => ?_
  rcases List.mem_cons.1 mem with rfl | mem
  · exact ⟨[.pick 0, .pick 0, .pick 0], rfl⟩
  · obtain rfl := List.mem_singleton.1 mem
    exact ⟨[], rfl⟩

end CardGame
