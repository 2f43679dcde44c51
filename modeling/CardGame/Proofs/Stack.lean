import CardGame.Proofs.Identity
import CardGame.Proofs.Reached

/-!
The discipline of the stack. Whatever effects and costs do, they only put triggered uses on top of
what waits there; a card that is cast and an ability that is activated put their own use on top of
those; and resolving takes the top use off before anything else happens. So what waits is never
changed, and numbers on the stack differ.
-/

namespace CardGame

namespace Fires

theorem emit (kind : EventKind) (subject : ObjectRef) (g : Game) :
    Fires g (StateT.run (Step.emit kind subject) g).2 := by
  by_cases deep : g.config.maxEventDepth.toNat ≤ g.eventDepth
  · rw [Step.emit_dropped kind subject deep]
    exact .of_eq rfl rfl
  · have fires := (Step.emit_onlyFires kind subject (Nat.lt_of_not_le deep)).toFires
    exact ⟨fires.issues, fires.fired⟩

theorem numbered (g : Game) : Fires g { g with nextUse := g.nextUse + 1 } :=
  ⟨Nat.le_succ _, [], by simp, by simp, .nil _ _⟩

theorem plays {v : AbilityUse} {f g h : Game} (first : Fires f g) (next : Plays v g h) :
    Plays v f h := by
  obtain ⟨us, grown, triggered, issued⟩ := first.fired
  obtain ⟨vs, grown', triggered', issued'⟩ := next.played
  refine ⟨Nat.le_trans first.issues next.issues, us ++ vs, ?_, ?_, ?_⟩
  · rw [grown', grown]
    simp only [List.append_assoc]
  · intro u mem
    exact (List.mem_append.1 mem).elim (triggered u) (triggered' u)
  · rw [List.append_assoc]
    exact issued.append issued' first.issues next.issues

end Fires

theorem KeptByChanges.of_fires {P : Game → Prop} (closed : ∀ {g h}, P g → Fires g h → P h) :
    KeptByChanges P :=
  .of_writes (fun start writes => closed start (.of_eq (by rw [writes.stack]) writes.nextUse))
    fun kind subject g start => closed start (.emit kind subject g)

def Numbered (g : Game) (id : UseId) (k : Game) : Prop :=
  ∃ h, Fires g h ∧ id = ⟨h.nextUse⟩ ∧ Fires { h with nextUse := h.nextUse + 1 } k

namespace Numbered

variable {g h k : Game} {id : UseId}

theorem closed (numbered : Numbered g id h) (fires : Fires h k) : Numbered g id k := by
  obtain ⟨before, first, number, next⟩ := numbered
  exact ⟨before, first, number, next.trans fires⟩

theorem fires (numbered : Numbered g id h) : Fires g h := by
  obtain ⟨before, first, -, next⟩ := numbered
  exact first.trans ((Fires.numbered before).trans next)

theorem push {v : AbilityUse} (numbered : Numbered g v.id h) :
    Plays v g (h.modifyStack (·.push v)) := by
  obtain ⟨before, first, number, next⟩ := numbered
  exact first.plays (next.push number)

theorem kept (g : Game) (id : UseId) : KeptByChanges (Numbered g id) :=
  .of_fires closed

end Numbered

theorem Fires.kept (g : Game) : KeptByChanges (Fires g) :=
  .of_fires .trans

/-- From one game to a later one, a card put a use of its own on the stack, above those that were
triggered on the way. -/
def PlaysFrom (kind : UseKind) (c : CardId) (g h : Game) : Prop :=
  ∃ v, v.kind = kind ∧ v.source = c ∧ Plays v g h

/-- A successful activation of an ability that is a cost fires triggers only; of any other one it
puts the use of the ability on the stack. -/
def ActivatesFrom (a : Activated) (c : CardId) (g h : Game) : Prop :=
  if a.isCost then Fires g h else PlaysFrom .activated c g h

namespace Act

variable {g : Game}

theorem leads_nextUseId :
    Leads (Fires g) (liftM Step.nextUseId) (Numbered g) (Fires g) :=
  leads_lift fun h fires => ⟨h, fires, rfl, .refl _⟩

theorem leads_playUse {u v : AbilityUse} (becomes : u.Becomes v) :
    Leads (Numbered g u.id) (liftM (Step.playUse Step.emit v))
      (fun _ => PlaysFrom u.kind u.source g) (Fires g) := by
  refine leads_lift fun h numbered => ?_
  have whole := becomes.trans (Step.pickUse_becomes Step.emit v h)
  have picked := (Numbered.kept g u.id).keeps_pickUse v h numbered
  rw [← whole.id_eq] at picked
  exact ⟨_, whole.kind_eq, whole.source_eq, picked.push⟩

theorem leads_castFor (p : PlayerId) (c : CardId) (i : CardInstance) (field : Option Nat)
    (x : Amount) :
    Leads (Fires g) (castFor p c i field x) (fun _ => PlaysFrom .cast c g) (Fires g) := by
  refine ((Fires.kept g).keeps_pay c _ x).leads.bind fun _ => leads_nextUseId.bind fun id => ?_
  have moved := ((Numbered.kept g id).move c .stack .top).leads.weaken (fun _ _ kept => kept)
    fun _ numbered => numbered.fires
  exact moved.bind fun _ => leads_playUse (AbilityUse.prepareClauses_becomes
    { AbilityUse.fresh id .cast c p with x := x, field := field } _)

theorem leads_activateFor (p : PlayerId) (c : CardId) (a : Activated) (x : Amount) :
    Leads (Fires g) (activateFor p c a x) (fun _ => ActivatesFrom a c g) (Fires g) := by
  refine ((Fires.kept g).keeps_pay c _ x).leads.bind fun _ => leads_nextUseId.bind fun id => ?_
  let u := { AbilityUse.fresh id .activated c p with x := x }
  have paid := ((Numbered.kept g id).keeps_payActions (u.prepareClauses a.effectCosts)).leads_of
    (payActions_becomes _)
  refine (paid.weaken (fun _ _ paid => paid) fun _ numbered => numbered.fires).bind fun v => ?_
  unfold ActivatesFrom
  split
  · have resolved : Keeps (Fires g) (do
        resolveUse (← Step.pickUse Step.emit (v.prepare a.effect))
        modifyThe Game (·.modifyStack (·.acted))) :=
      (keeps_lift ((Fires.kept g).keeps_pickUse _)).bind fun _ =>
        ((Fires.kept g).keeps_resolveUse _).bind fun _ =>
        keeps_modifyThe fun h fires => fires.trans (.of_eq rfl rfl)
    exact fun h paid => resolved.leads h paid.1.fires
  · intro h paid
    have becomes := (u.prepareClauses_becomes a.effectCosts).trans
      (paid.2.trans (v.prepareClauses_becomes a.effect.effects))
    exact leads_playUse becomes h paid.1

theorem leads_cast (p : PlayerId) (c : CardId) (field : Option Nat) :
    Leads (Fires g) (cast p c field) (fun _ => PlaysFrom .cast c g) (Fires g) := by
  have k := Fires.kept g
  refine (keeps_inHand p c).leads.bind fun i => (keeps_checkPriority p).leads.bind fun _ => ?_
  refine keeps_getThe.leads.bind fun _ => (keeps_require _ _).leads.bind fun _ => ?_
  dsimp only
  split
  · exact ((keeps_fieldFor p c field).map _).leads.bind fun _ =>
      (k.keeps_affordableX p c _ _).leads.bind fun _ => leads_castFor p c i _ _
  · exact (keeps_pure _).leads.bind fun _ => (k.keeps_affordableX p c _ _).leads.bind fun _ =>
      leads_castFor p c i _ _

theorem leads_activate (p : PlayerId) (c : CardId) (index : Nat) :
    Leads (fun h => h = g) (activate p c index) (fun _ h => ∃ i a, g.card? c = some i ∧
      i.activatedAbilities[index]? = some a ∧ ActivatesFrom a c g h) (Fires g) := by
  have k := Fires.kept g
  have found : Leads (fun h => h = g) (card c) (fun i h => g.card? c = some i ∧ Fires g h)
      (Fires g) :=
    leads_card (fun h i same found => same ▸ ⟨found, .refl h⟩) fun h same => same ▸ .refl h
  refine found.bind fun i => .given fun known => (keeps_require _ _).leads.bind fun _ => ?_
  split
  · exact leads_throw fun _ fires => fires
  · next a listed =>
    have used := leads_activateFor (g := g) p c a
    exact (keeps_checkPriority p).leads.bind fun _ => keeps_getThe.leads.bind fun _ =>
      (keeps_require _ _).leads.bind fun _ => (k.keeps_affordableX p c _ _).leads.bind fun x =>
      (used x).weaken (fun _ _ used => ⟨i, a, known, listed, used⟩) fun _ fires => fires

end Act

/-- From one game to a later one, new uses were put on top of those that wait. -/
structure Grows (g h : Game) : Prop where
  issues : g.nextUse ≤ h.nextUse
  grown : ∃ added, h.stack.entries = g.stack.entries ++ added ∧ Issued g.nextUse h.nextUse added

/-- From one game to a later one, uses were taken off the top and new ones put on. -/
structure Continues (g h : Game) : Prop where
  issues : g.nextUse ≤ h.nextUse
  continued : ∃ kept added, h.stack.entries = g.stack.entries.take kept ++ added ∧
    Issued g.nextUse h.nextUse added

theorem Grows.of_eq {g h : Game} (entries : h.stack.entries = g.stack.entries)
    (count : h.nextUse = g.nextUse) : Grows g h :=
  ⟨Nat.le_of_eq count.symm, [], by simp [entries], .nil _ _⟩

theorem Fires.grows {g h : Game} (fires : Fires g h) : Grows g h := by
  obtain ⟨fired, grown, -, issued⟩ := fires.fired
  exact ⟨fires.issues, fired, grown, issued⟩

theorem PlaysFrom.grows {kind : UseKind} {c : CardId} {g h : Game} (played : PlaysFrom kind c g h) :
    Grows g h := by
  obtain ⟨v, -, -, plays⟩ := played
  obtain ⟨fired, grown, -, issued⟩ := plays.played
  exact ⟨plays.issues, fired ++ [v], grown, issued⟩

theorem ActivatesFrom.grows {a : Activated} {c : CardId} {g h : Game}
    (activated : ActivatesFrom a c g h) : Grows g h := by
  unfold ActivatesFrom at activated
  split at activated
  · exact activated.grows
  · exact activated.grows

theorem Grows.trans {f g h : Game} (first : Grows f g) (next : Grows g h) : Grows f h := by
  obtain ⟨us, grown, issued⟩ := first.grown
  obtain ⟨vs, grown', issued'⟩ := next.grown
  refine ⟨Nat.le_trans first.issues next.issues, us ++ vs, ?_, ?_⟩
  · rw [grown', grown, List.append_assoc]
  · exact issued.append issued' first.issues next.issues

theorem Grows.continues {g h : Game} (grows : Grows g h) : Continues g h := by
  obtain ⟨added, grown, issued⟩ := grows.grown
  refine ⟨grows.issues, g.stack.entries.length, added, ?_, issued⟩
  rw [List.take_length]
  exact grown

namespace Continues

variable {f g h : Game}

theorem trans (first : Continues f g) (next : Continues g h) : Continues f h := by
  obtain ⟨kept, us, continued, issued⟩ := first.continued
  obtain ⟨kept', vs, continued', issued'⟩ := next.continued
  refine ⟨Nat.le_trans first.issues next.issues, min kept' kept,
    us.take (kept' - (f.stack.entries.take kept).length) ++ vs, ?_, ?_⟩
  · rw [continued', continued, List.take_append, List.take_take, List.append_assoc]
  · exact (issued.sublist (List.take_sublist _ _)).append issued' first.issues next.issues

theorem popped (g : Game) : Continues g (g.modifyStack (·.pop.2)) := by
  refine ⟨Nat.le_refl _, g.stack.entries.length - 1, [], ?_, .nil _ _⟩
  rw [List.append_nil, ← List.dropLast_eq_take]
  rfl

theorem issued (continues : Continues g h) (before : Issued 0 g.nextUse g.stack.entries) :
    Issued 0 h.nextUse h.stack.entries := by
  obtain ⟨kept, added, continued, issued⟩ := continues.continued
  rw [continued]
  exact (before.sublist (List.take_sublist _ _)).append issued (Nat.zero_le _) continues.issues

end Continues

theorem keptByActions_of_grows {P : Game → Prop} (closed : ∀ {g h}, P g → Grows g h → P h) :
    KeptByActions P where
  toKeptByWrites :=
    (KeptByChanges.of_fires fun start fires => closed start fires.grows).toKeptByWrites
  castFor p c i field x g start :=
    (Act.leads_castFor p c i field x).left (fun _ _ played => closed start played.grows)
      (fun _ fires => closed start fires.grows) (.refl g)
  activateFor p c a x g start :=
    (Act.leads_activateFor p c a x).left (fun _ _ used => closed start used.grows)
      (fun _ fires => closed start fires.grows) (.refl g)
  priority entries _ start := closed start (.of_eq (entries _) rfl)
  turn _ _ start := closed start (.of_eq rfl rfl)
  observers _ _ start := closed start (.of_eq rfl rfl)
  accounts _ _ start := closed start (.of_eq rfl rfl)
  shuffleDecks _ start := closed start (.of_eq rfl rfl)

theorem keptByPlay_of_continues {P : Game → Prop} (closed : ∀ {g h}, P g → Continues g h → P h) :
    KeptByPlay P where
  toKeptByActions := keptByActions_of_grows fun start grows => closed start grows.continues
  popped g start := closed start (.popped g)

theorem Operation.perform_grows (g : Game) (op : Operation) (quiet : op.resolves = false) :
    Grows g (op.perform g) :=
  (keptByActions_of_grows Grows.trans).perform op quiet (Fires.refl g).grows

theorem Operation.perform_continues (g : Game) (op : Operation) : Continues g (op.perform g) :=
  (keptByPlay_of_continues Continues.trans).perform op (Fires.refl g).grows.continues

theorem Act.resolveTop_fires (g : Game) :
    Fires (g.modifyStack (·.pop.2)) (Step.leave (outcome resolveTop) g) := by
  change Fires _ (StateT.run (ExceptT.run resolveTop) g).2
  have rest : ∀ u, Keeps (Fires (g.modifyStack (·.pop.2)))
      (do resolveUse u; return true : Act Bool) :=
    fun u => ((Fires.kept _).keeps_resolveUse u).bind fun _ => keeps_pure _
  cases top : g.stack.entries.getLast? with
  | none =>
    rw [resolveTop_of_empty top]
    have empty := List.getLast?_eq_none_iff.1 top
    refine .of_eq ?_ rfl
    simp [Game.modifyStack, PriorityStack.pop, empty]
  | some u =>
    rw [resolveTop_of_top top]
    exact rest u _ (.refl _)

structure StackDiscipline (g : Game) : Prop where
  resolveTop : Fires (g.modifyStack (·.pop.2)) (Step.leave (Act.outcome Act.resolveTop) g)
  cast : ∀ p c field h, StateT.run (ExceptT.run (Act.cast p c field)) g = (.ok (), h) →
    PlaysFrom .cast c g h
  activate : ∀ p c index h, StateT.run (ExceptT.run (Act.activate p c index)) g = (.ok (), h) →
    ∃ i a, g.card? c = some i ∧ i.activatedAbilities[index]? = some a ∧ ActivatesFrom a c g h
  quiet : ∀ op : Operation, op.resolves = false → Grows g (op.perform g)
  every : ∀ op : Operation, Continues g (op.perform g)
  distinct : g.stack.entries.Pairwise fun u v => u.id ≠ v.id

theorem Game.stack_create {config : RulesConfig} {entrants : List Entrant} {g : Game}
    (created : create config entrants = .ok g) : g.stack.entries = [] :=
  create_induction (P := fun g => g.stack.entries = []) created
    (fun _ => rfl) fun _ _ _ _ _ none => none

/-- In every game that can come about, what may be done next leaves alone what waits on the stack,
and what waits differs in its numbers. -/
theorem Reached.stackDiscipline {g : Game} (reached : Reached g) : StackDiscipline g where
  resolveTop := Act.resolveTop_fires g
  cast p c field _ ran := (Act.leads_cast p c field).success (.refl g) ran
  activate p c index _ ran := (Act.leads_activate p c index).success rfl ran
  quiet := Operation.perform_grows g
  every := Operation.perform_continues g
  distinct := by
    obtain ⟨config, entrants, start, created, course⟩ := reached
    have fresh : Issued 0 start.nextUse start.stack.entries := by
      rw [Game.stack_create created]
      exact .nil _ _
    exact ((keptByPlay_of_continues fun before next => next.issued before).reachedFrom fresh
      course).distinct

theorem stackDiscipline_attack :
    ∃ start, Game.create {} [⟨[(Card.blank "Squire").withKind ⟨.unit, false⟩], .pass⟩,
      ⟨[], .pass⟩] =
        .ok start ∧
      let g := Operation.performAll start [.draw ⟨0⟩ 1, .enterPhase .play, .cast ⟨0⟩ ⟨0⟩ none,
        .resolveTop, .enterPhase .start, .enterPhase .play]
      let attacking := StateT.run (ExceptT.run (Act.activate ⟨0⟩ ⟨0⟩ 0)) g
      attacking.1.isOk ∧
        attacking.2.stack.entries.map (fun u => (u.kind, u.source)) = [(.activated, ⟨0⟩)] ∧
        StackDiscipline g := by
  refine ⟨_, rfl, by decide +kernel, by decide +kernel, ?_⟩
  exact Reached.stackDiscipline (reached_performAll {}
    [⟨[(Card.blank "Squire").withKind ⟨.unit, false⟩], .pass⟩, ⟨[], .pass⟩] rfl _)

end CardGame
