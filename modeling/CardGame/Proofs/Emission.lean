import CardGame.Game.Emission
import CardGame.Proofs.Numbering
import CardGame.Proofs.Prompting
import Mathlib.Data.List.Forall2

/-!
What emitting an event does. Choosing targets emits further events, firing triggers chooses targets,
so the way to emit is a parameter of every part; a part keeps what that parameter keeps. It follows
that an emission puts triggered uses on the stack, lets players decide, marks a loser and does
nothing else, however deep emissions nest.
-/

namespace CardGame

variable {P : Game → Prop}

namespace Step

section Picking

variable {announce other : Announce} (targeting : KeptByTargeting P)
  (targets : ∀ o, Agree P (announce .target o) (other .target o))
include targeting targets

theorem agree_pickTarget (u : AbilityUse) (m : Match) (zones : Option ZoneMatch) :
    Agree P (pickTarget announce u m zones) (pickTarget other u m zones) := by
  refine keeps_get.agree.bind fun g => ?_
  refine (targeting _ _).agree.bind fun chosen => ?_
  split
  · exact (keeps_pure _).agree
  · exact (targets _).bind fun _ => (keeps_pure _).agree

theorem agree_pick (u : AbilityUse) (m : Match) (zones : Option ZoneMatch) :
    Agree P (pick announce u m zones) (pick other u m zones) := by
  unfold pick
  split
  · exact agree_pickTarget targeting targets u m zones
  · exact (keeps_get.bind fun _ => keeps_pure _).agree

theorem agree_pickSubjects (u : AbilityUse) (earlier : List PlannedEffect) (e : PlannedEffect) :
    Agree P (pickSubjects announce u earlier e) (pickSubjects other u earlier e) := by
  unfold pickSubjects
  split
  · exact (keeps_pure _).agree
  · split
    · exact (keeps_pure _).agree
    · exact (agree_pick targeting targets _ _ _).bind fun _ => (keeps_pure _).agree

theorem agree_pickObjects (u : AbilityUse) (e : PlannedEffect) :
    Agree P (pickObjects announce u e) (pickObjects other u e) := by
  unfold pickObjects
  split
  · exact (keeps_pure _).agree
  · exact (agree_pick targeting targets _ _ _).bind fun _ => (keeps_pure _).agree

theorem agree_pickEffects (u : AbilityUse) (earlier rest : List PlannedEffect) :
    Agree P (pickEffects announce u earlier rest) (pickEffects other u earlier rest) := by
  induction rest generalizing u earlier with
  | nil => exact (keeps_pure _).agree
  | cons e rest ih =>
    refine (agree_pickSubjects targeting targets u earlier e).bind fun ⟨e, u⟩ => ?_
    exact (agree_pickObjects targeting targets u e).bind fun ⟨e, u⟩ => ih u _

theorem agree_pickUse (u : AbilityUse) : Agree P (pickUse announce u) (pickUse other u) :=
  agree_pickEffects targeting targets u [] u.effects

end Picking

theorem keeps_pickUse_of_targeting {announce : Announce} (targeting : KeptByTargeting P)
    (targets : ∀ o, Keeps P (announce .target o)) (u : AbilityUse) : Keeps P (pickUse announce u) :=
  (agree_pickUse targeting (fun o => (targets o).agree) u).keeps

theorem keeps_pickUse {announce : Announce} (blind : BlindToTalk P)
    (targets : ∀ o, Keeps P (announce .target o)) (u : AbilityUse) : Keeps P (pickUse announce u) :=
  keeps_pickUse_of_targeting blind.targeting targets u

end Step

/-- The same use further on: what it is to do, its targets and what was sacrificed for it may
differ. -/
def AbilityUse.Becomes (u v : AbilityUse) : Prop :=
  v = { u with
    effects := v.effects, sacrificed := v.sacrificed, targeting := v.targeting,
    nextGroup := v.nextGroup }

namespace AbilityUse

theorem Becomes.refl (u : AbilityUse) : u.Becomes u :=
  rfl

theorem Becomes.trans {u v w : AbilityUse} (first : u.Becomes v) (next : v.Becomes w) :
    u.Becomes w := by
  unfold Becomes at next
  rw [first] at next
  exact next

theorem Becomes.id_eq {u v : AbilityUse} (h : u.Becomes v) : v.id = u.id := by
  rw [h]

theorem Becomes.kind_eq {u v : AbilityUse} (h : u.Becomes v) : v.kind = u.kind := by
  rw [h]

theorem Becomes.source_eq {u v : AbilityUse} (h : u.Becomes v) : v.source = u.source := by
  rw [h]

theorem Becomes.controller_eq {u v : AbilityUse} (h : u.Becomes v) :
    v.controller = u.controller := by
  rw [h]

theorem Becomes.x_eq {u v : AbilityUse} (h : u.Becomes v) : v.x = u.x := by
  rw [h]

theorem prepareClauses_becomes (u : AbilityUse) (es : List Effect) :
    u.Becomes (u.prepareClauses es) := by
  induction es generalizing u with
  | nil => rfl
  | cons e es ih =>
    have first : u.Becomes (u.prepareClause e) := rfl
    exact first.trans (ih (u.prepareClause e))

theorem sacrificed_prepareClauses (u : AbilityUse) (es : List Effect) :
    (u.prepareClauses es).sacrificed = u.sacrificed := by
  induction es generalizing u with
  | nil => rfl
  | cons e es ih => exact ih (u.prepareClause e)

def Aims (u v : AbilityUse) : Prop :=
  v = { u with effects := v.effects, targeting := v.targeting }

theorem Aims.refl (u : AbilityUse) : u.Aims u :=
  rfl

theorem Aims.trans {u v w : AbilityUse} (first : u.Aims v) (next : v.Aims w) : u.Aims w := by
  unfold Aims at next
  rw [first] at next
  exact next

theorem Aims.becomes {u v : AbilityUse} (aims : u.Aims v) : u.Becomes v := by
  unfold Becomes
  rw [aims]

theorem Aims.sacrificed_eq {u v : AbilityUse} (aims : u.Aims v) : v.sacrificed = u.sacrificed := by
  rw [aims]

end AbilityUse

namespace Step

theorem pickTarget_aims (announce : Announce) (u : AbilityUse) (m : Match)
    (zones : Option ZoneMatch) : Gives (pickTarget announce u m zones) fun r => u.Aims r.2 := by
  refine Gives.bind fun g => Gives.bind fun chosen => ?_
  split
  · exact gives_pure (AbilityUse.Aims.refl u)
  · exact Gives.bind fun _ => gives_pure rfl

theorem pick_aims (announce : Announce) (u : AbilityUse) (m : Match) (zones : Option ZoneMatch) :
    Gives (pick announce u m zones) fun r => u.Aims r.2 := by
  unfold pick
  split
  · exact pickTarget_aims announce u m zones
  · exact Gives.bind fun _ => gives_pure rfl

theorem pickSubjects_aims (announce : Announce) (u : AbilityUse) (earlier : List PlannedEffect)
    (e : PlannedEffect) : Gives (pickSubjects announce u earlier e) fun r => u.Aims r.2 := by
  unfold pickSubjects
  split
  · exact gives_pure rfl
  · split
    · exact gives_pure rfl
    · exact (pick_aims announce u _ _).bind_of fun r aims => gives_pure aims

theorem pickObjects_aims (announce : Announce) (u : AbilityUse) (e : PlannedEffect) :
    Gives (pickObjects announce u e) fun r => u.Aims r.2 := by
  unfold pickObjects
  split
  · exact gives_pure rfl
  · exact (pick_aims announce u _ _).bind_of fun r aims => gives_pure aims

theorem pickEffects_aims (announce : Announce) (u : AbilityUse)
    (earlier rest : List PlannedEffect) :
    Gives (pickEffects announce u earlier rest) u.Aims := by
  induction rest generalizing u earlier with
  | nil => exact gives_pure rfl
  | cons e rest ih =>
    refine (pickSubjects_aims announce u earlier e).bind_of fun ⟨e, v⟩ first => ?_
    refine (pickObjects_aims announce v e).bind_of fun ⟨e, w⟩ second => ?_
    exact fun g => first.trans (second.trans (ih w _ g))

theorem pickUse_aims (announce : Announce) (u : AbilityUse) : Gives (pickUse announce u) u.Aims :=
  pickEffects_aims announce u [] u.effects

theorem pickUse_becomes (announce : Announce) (u : AbilityUse) :
    Gives (pickUse announce u) u.Becomes :=
  fun g => (pickUse_aims announce u g).becomes

end Step

/-- The same effect with its targets chosen. Subjects are chosen only for a subject that is
named. -/
structure PlannedEffect.Aimed (e d : PlannedEffect) : Prop where
  same : d = { e with
    subjects := d.subjects, subjectsPicked := d.subjectsPicked, objects := d.objects,
    picked := d.picked }
  unnamed : e.subject = none → d.subjectsPicked = e.subjectsPicked

namespace PlannedEffect.Aimed

theorem refl (e : PlannedEffect) : e.Aimed e :=
  ⟨rfl, fun _ => rfl⟩

theorem trans {e d f : PlannedEffect} (first : e.Aimed d) (next : d.Aimed f) : e.Aimed f := by
  refine ⟨?_, fun none => ?_⟩
  · have same := next.same
    rw [first.same] at same
    exact same
  · refine (next.unnamed ?_).trans (first.unnamed none)
    rw [first.same]
    exact none

theorem effect_eq {e d : PlannedEffect} (h : e.Aimed d) : d.effect = e.effect := by
  rw [h.same]

theorem subject_eq {e d : PlannedEffect} (h : e.Aimed d) : d.subject = e.subject := by
  rw [h.same]

theorem exists_of_mem {es ds : List PlannedEffect} (aimed : List.Forall₂ PlannedEffect.Aimed es ds)
    {d : PlannedEffect} (mem : d ∈ ds) : ∃ e ∈ es, e.Aimed d := by
  induction aimed with
  | nil => exact nomatch mem
  | cons first _ ih =>
    rcases List.mem_cons.1 mem with rfl | later
    · exact ⟨_, .head _, first⟩
    · obtain ⟨e, listed, same⟩ := ih later
      exact ⟨e, .tail _ listed, same⟩

end PlannedEffect.Aimed

namespace Step

theorem pickSubjects_aimed (announce : Announce) (u : AbilityUse) (earlier : List PlannedEffect)
    (e : PlannedEffect) : Gives (pickSubjects announce u earlier e) fun r => e.Aimed r.1 := by
  unfold pickSubjects
  split
  · exact gives_pure (.refl e)
  · next m asked =>
    have aimed : ∀ subjects, e.Aimed { e with subjects := subjects, subjectsPicked := true } := by
      refine fun subjects => ⟨rfl, fun none => ?_⟩
      rw [PlannedEffect.subjectToPick?, none] at asked
      split at asked <;> exact nomatch asked
    split
    · exact gives_pure (aimed _)
    · exact Gives.bind fun r => gives_pure (aimed _)

theorem pickObjects_aimed (announce : Announce) (u : AbilityUse) (e : PlannedEffect) :
    Gives (pickObjects announce u e) fun r => e.Aimed r.1 := by
  unfold pickObjects
  split
  · exact gives_pure (.refl e)
  · exact Gives.bind fun r => gives_pure ⟨rfl, fun _ => rfl⟩

theorem pickEffects_aimed (announce : Announce) (u : AbilityUse)
    (earlier rest : List PlannedEffect) :
    Gives (pickEffects announce u earlier rest) fun v =>
      ∃ ds, v.effects = earlier ++ ds ∧ List.Forall₂ PlannedEffect.Aimed rest ds := by
  induction rest generalizing u earlier with
  | nil => exact gives_pure ⟨[], (List.append_nil _).symm, .nil⟩
  | cons e rest ih =>
    refine (pickSubjects_aimed announce u earlier e).bind_of fun ⟨d, v⟩ first => ?_
    refine (pickObjects_aimed announce v d).bind_of fun ⟨f, w⟩ second g => ?_
    obtain ⟨ds, listed, aimed⟩ := ih w (earlier ++ [f]) g
    exact ⟨f :: ds, by rw [listed, List.append_assoc]; rfl, .cons (first.trans second) aimed⟩

theorem pickUse_aimed (announce : Announce) (u : AbilityUse) :
    Gives (pickUse announce u) fun v => List.Forall₂ PlannedEffect.Aimed u.effects v.effects := by
  intro g
  obtain ⟨ds, listed, aimed⟩ := pickEffects_aimed announce u [] u.effects g
  rw [List.nil_append] at listed
  exact listed ▸ aimed

end Step

/-- From one game to a later one, triggered uses were put on the stack, players decided, the
chronicle was written, and nothing else changed. -/
structure OnlyFires (g h : Game) : Prop extends Fires g h where
  frame : h = { g with
    choosers := h.choosers, chronicle := h.chronicle, nextUse := h.nextUse,
    stack := { g.stack with entries := h.stack.entries, passes := h.stack.passes } }

namespace OnlyFires

theorem refl (g : Game) : OnlyFires g g :=
  ⟨.refl g, rfl⟩

theorem trans {f g h : Game} (first : OnlyFires f g) (next : OnlyFires g h) : OnlyFires f h := by
  refine ⟨first.toFires.trans next.toFires, ?_⟩
  have frame := next.frame
  rw [first.frame] at frame
  exact frame

theorem config_eq {g h : Game} (fires : OnlyFires g h) : h.config = g.config := by
  rw [fires.frame]

theorem eventDepth_eq {g h : Game} (fires : OnlyFires g h) : h.eventDepth = g.eventDepth := by
  rw [fires.frame]

theorem of_talk (g : Game) (choosers : Seats Chooser) (chronicle : Array Entry) :
    OnlyFires g { g with choosers := choosers, chronicle := chronicle } :=
  ⟨.of_eq rfl rfl, rfl⟩

theorem atDepth {g h : Game} (fires : OnlyFires g h) (depth : Nat) :
    OnlyFires { g with eventDepth := depth } { h with eventDepth := depth } := by
  refine ⟨⟨fires.issues, fires.fired⟩, ?_⟩
  have frame := fires.frame
  rw [frame]

theorem blind (g : Game) : BlindToTalk (OnlyFires g) :=
  fun h choosers chronicle start => start.trans (.of_talk h choosers chronicle)

end OnlyFires

namespace Step

theorem agree_fireCard {announce other : Announce} {kind : EventKind} {subject : ObjectRef}
    (firing : ∀ c controller t, Agree P (fire announce kind subject c controller t)
      (fire other kind subject c controller t)) (c : CardId) :
    Agree P (fireCard announce kind subject c) (fireCard other kind subject c) := by
  refine keeps_get.agree.bind fun g => ?_
  split
  · exact (keeps_pure ()).agree
  · split
    · exact Agree.forM (firing c _) _
    · exact (keeps_pure ()).agree

theorem agree_fireTriggers {announce other : Announce} {kind : EventKind} {subject : ObjectRef}
    (firing : ∀ c controller t, Agree P (fire announce kind subject c controller t)
      (fire other kind subject c controller t)) :
    Agree P (fireTriggers announce kind subject) (fireTriggers other kind subject) :=
  keeps_get.agree.bind fun g => Agree.forM (agree_fireCard firing) g.boardCards

theorem keeps_tellObservers_of_handling {e : GameEvent}
    (handled : ∀ g h, P g → P (g.record (.handled h e))) : Keeps P (tellObservers e) := by
  have told : ∀ hs g, P g → P (List.foldl (fun g h => g.record (.handled h e)) g hs) := by
    intro hs
    induction hs with
    | nil => exact fun g h => h
    | cons h hs ih => exact fun g start => ih _ (handled g h start)
  exact keeps_modify fun g => told _ g

theorem keeps_tellObservers (blind : BlindToTalk P) (e : GameEvent) : Keeps P (tellObservers e) :=
  keeps_tellObservers_of_handling fun _ _ start => blind.record _ start

section Firing

variable {announce : Announce} (targets : ∀ g o, Keeps (OnlyFires g) (announce .target o))
include targets

theorem pickUse_onlyFires (u : AbilityUse) (g : Game) :
    OnlyFires g (StateT.run (pickUse announce u) g).2 :=
  keeps_pickUse (OnlyFires.blind g) (targets g) u g (.refl g)

theorem keeps_fire (kind : EventKind) (subject : ObjectRef) (c : CardId) (controller : PlayerId)
    (t : Triggered) (start : Game) :
    Keeps (OnlyFires start) (fire announce kind subject c controller t) := by
  refine keeps_get.bind fun known => ?_
  split
  · intro g before
    let u := ({ AbilityUse.fresh ⟨g.nextUse⟩ .triggered c controller with
      event := kind, subject := some subject, this := [subject] }).prepare t.effect
    have prepared := AbilityUse.prepareClauses_becomes
      { AbilityUse.fresh ⟨g.nextUse⟩ .triggered c controller with
        event := kind, subject := some subject, this := [subject] } t.effect.effects
    have picking := pickUse_onlyFires targets u { g with nextUse := g.nextUse + 1 }
    have picked := prepared.trans (pickUse_becomes announce u { g with nextUse := g.nextUse + 1 })
    have fires := (picking.toFires.push picked.id_eq).fires picked.kind_eq
    have frame : ∀ h v, OnlyFires { g with nextUse := g.nextUse + 1 } h →
        h.modifyStack (·.push v) = { g with
          choosers := h.choosers, chronicle := h.chronicle, nextUse := h.nextUse,
          stack := { g.stack with entries := h.stack.entries ++ [v], passes := 0 } } := by
      intro h v between
      rw [between.frame]
      rfl
    exact before.trans ⟨fires, frame _ _ picking⟩
  · exact keeps_pure ()

theorem fireTriggers_onlyFires (kind : EventKind) (subject : ObjectRef) (g : Game) :
    OnlyFires g (StateT.run (fireTriggers announce kind subject) g).2 :=
  (agree_fireTriggers fun c controller t =>
    (keeps_fire targets kind subject c controller t g).agree).keeps g (.refl g)

end Firing

def losersMarked (kind : EventKind) (subject : ObjectRef) (players : Seats Player) : Seats Player :=
  match kind, subject with
  | .lose, .player p => players.modify p fun s => { s with lost := true }
  | _, _ => players

theorem markLoser_run (kind : EventKind) (subject : ObjectRef) (g : Game) :
    StateT.run (markLoser kind subject) g =
      ((), { g with players := losersMarked kind subject g.players }) := by
  cases kind <;> cases subject <;> rfl

/-- The game in which triggers meet an event: one level of emissions further in, with the event
noted. -/
def noted (kind : EventKind) (subject : ObjectRef) (g : Game) : Game :=
  { g with
    players := losersMarked kind subject g.players
    eventDepth := g.eventDepth + 1
    chronicle := g.chronicle.push (.emitted ⟨kind, g.resolving, subject⟩) }

def react (announce : Announce) (kind : EventKind) (subject : ObjectRef) (source : Option CardId) :
    Step Unit := do
  fireTriggers announce kind subject
  tellObservers ⟨kind, source, subject⟩
  modify fun g => { g with eventDepth := g.eventDepth - 1 }

theorem emitWithin_succ_run (room : Nat) (kind : EventKind) (subject : ObjectRef) (g : Game) :
    StateT.run (emitWithin (room + 1) kind subject) g =
      StateT.run (react (emitWithin room) kind subject g.resolving) (noted kind subject g) := by
  change StateT.run (markLoser kind subject >>= fun _ => do
    let event : GameEvent := ⟨kind, (← get).resolving, subject⟩
    modify (·.record (.emitted event))
    react (emitWithin room) kind subject event.source) { g with eventDepth := g.eventDepth + 1 } = _
  rw [StateT.run_bind, markLoser_run]
  rfl

theorem react_onlyFires {announce : Announce}
    (targets : ∀ g o, Keeps (OnlyFires g) (announce .target o))
    (kind : EventKind) (subject : ObjectRef) (g : Game) :
    OnlyFires { g with players := losersMarked kind subject g.players }
      (StateT.run (react announce kind subject g.resolving) (noted kind subject g)).2 := by
  have fired := fireTriggers_onlyFires targets kind subject (noted kind subject g)
  have told := keeps_tellObservers (OnlyFires.blind _) ⟨kind, g.resolving, subject⟩ _ fired
  have closed : ∀ h, OnlyFires (noted kind subject g) h →
      OnlyFires { g with players := losersMarked kind subject g.players }
        { h with eventDepth := h.eventDepth - 1 } := by
    intro h between
    rw [between.eventDepth_eq]
    exact OnlyFires.trans (.of_talk _ _ _) (between.atDepth g.eventDepth)
  exact closed _ told

theorem emitWithin_target_onlyFires (room : Nat) (g : Game) (o : ObjectRef) :
    Keeps (OnlyFires g) (emitWithin room .target o) := by
  induction room generalizing g o with
  | zero => exact keeps_get.bind fun known => keeps_notice (OnlyFires.blind g) _
  | succ room ih => exact fun h start => start.trans (by
    rw [emitWithin_succ_run]
    exact react_onlyFires ih .target o h)

theorem emit_target_onlyFires (g : Game) (o : ObjectRef) : Keeps (OnlyFires g) (emit .target o) :=
  keeps_get.bind fun _ => emitWithin_target_onlyFires _ g o

theorem emit_dropped (kind : EventKind) (subject : ObjectRef) {g : Game}
    (deep : g.config.maxEventDepth.toNat ≤ g.eventDepth) :
    StateT.run (emit kind subject) g =
      ((), g.record (.noticed (.eventDropped g.eventDepth kind subject))) := by
  change StateT.run (emitWithin (g.config.maxEventDepth.toNat - g.eventDepth) kind subject) g = _
  rw [Nat.sub_eq_zero_of_le deep]
  rfl

theorem keeps_nextUseId (numbered : ∀ g, P g → P { g with nextUse := g.nextUse + 1 }) :
    Keeps P nextUseId :=
  numbered

theorem agree_fire {announce other : Announce} (blind : BlindToTalk P)
    (unstacked : ∀ g stack count, P g → P { g with stack := stack, nextUse := count })
    (targets : ∀ o, Agree P (announce .target o) (other .target o))
    (kind : EventKind) (subject : ObjectRef) (c : CardId) (controller : PlayerId) (t : Triggered) :
    Agree P (fire announce kind subject c controller t)
      (fire other kind subject c controller t) := by
  refine keeps_get.agree.bind fun g => ?_
  split
  · have numbered := keeps_nextUseId fun g h => unstacked g g.stack _ h
    refine numbered.agree.bind fun id => (agree_pickUse blind.targeting targets _).bind fun u => ?_
    exact (keeps_modify fun g h => unstacked g _ _ h).agree
  · exact (keeps_pure ()).agree

/-- Emissions nested in one are emissions again: the room handed down is what the cap leaves. -/
theorem emit_eq_react (kind : EventKind) (subject : ObjectRef) {g : Game}
    (room : g.eventDepth < g.config.maxEventDepth.toNat) :
    StateT.run (emit kind subject) g =
      StateT.run (react emit kind subject g.resolving) (noted kind subject g) := by
  let left := g.config.maxEventDepth.toNat - (g.eventDepth + 1)
  let Inside : Game → Prop := fun h => h.config = g.config ∧ h.eventDepth = g.eventDepth + 1
  have nested : ∀ o, Agree Inside (emitWithin left .target o) (emit .target o) := by
    intro o h inside
    constructor
    · change _ = StateT.run (emitWithin (h.config.maxEventDepth.toNat - h.eventDepth) .target o) h
      rw [inside.1, inside.2]
    · have fires := emitWithin_target_onlyFires left h o h (.refl h)
      exact ⟨fires.config_eq.trans inside.1, fires.eventDepth_eq.trans inside.2⟩
  have fired : Agree Inside (fireTriggers (emitWithin left) kind subject)
      (fireTriggers emit kind subject) :=
    agree_fireTriggers (agree_fire (fun _ _ _ h => h) (fun _ _ _ h => h) nested kind subject)
  have cap : g.config.maxEventDepth.toNat - g.eventDepth = left + 1 := by omega
  change StateT.run (emitWithin (g.config.maxEventDepth.toNat - g.eventDepth) kind subject) g = _
  rw [cap, emitWithin_succ_run, react, react, StateT.run_bind, StateT.run_bind]
  rw [(fired (noted kind subject g) ⟨rfl, rfl⟩).1]

theorem emit_onlyFires (kind : EventKind) (subject : ObjectRef) {g : Game}
    (room : g.eventDepth < g.config.maxEventDepth.toNat) :
    OnlyFires { g with players := losersMarked kind subject g.players }
      (StateT.run (emit kind subject) g).2 := by
  rw [emit_eq_react kind subject room]
  exact react_onlyFires emit_target_onlyFires kind subject g

theorem get?_losersMarked (kind : EventKind) (subject : ObjectRef) (players : Seats Player)
    (p : PlayerId) : (losersMarked kind subject players).get? p =
      (players.get? p).map fun s =>
        { s with lost := s.lost || decide (kind = .lose ∧ subject = .player p) } := by
  unfold losersMarked
  split
  · rename_i q
    by_cases same : q = p
    · subst same
      simp [Seats.get?_modify_self]
    · rw [Seats.get?_modify_of_ne _ same]
      simp [same]
  · rename_i other
    have : ¬(kind = .lose ∧ subject = .player p) := fun h => other p h.1 h.2
    simp [this]

theorem player_losersMarked (kind : EventKind) (subject : ObjectRef) {g h : Game}
    (marked : h.players = losersMarked kind subject g.players) (p : PlayerId) : h.player p =
      { g.player p with lost := (g.player p).lost || decide (kind = .lose ∧
        subject = .player p) } := by
  simp only [Game.player, marked, get?_losersMarked]
  cases g.players.get? p with
  | none => rfl
  | some s => rfl

theorem count_losersMarked (kind : EventKind) (subject : ObjectRef) (players : Seats Player) :
    (losersMarked kind subject players).count = players.count := by
  unfold losersMarked
  split
  · exact Seats.count_modify _ _ _
  · rfl

end Step

/-- What an emission leaves as it was, and what it changes besides what players and the chronicle
saw: the loser's mark and the upper end of the stack. -/
structure EmissionFrame (kind : EventKind) (subject : ObjectRef) (g h : Game) : Prop where
  eventDepth : h.eventDepth = g.eventDepth
  config : h.config = g.config
  cards : h.cards = g.cards
  seats : h.players.count = g.players.count
  player : ∀ p, h.player p =
    { g.player p with lost := (g.player p).lost || decide (kind = .lose ∧ subject = .player p) }
  turn : h.turn = g.turn
  random : h.random = g.random
  resolving : h.resolving = g.resolving
  observers : h.observers = g.observers
  stack : ∃ fired, (∀ u ∈ fired, u.kind = .triggered) ∧ h.stack = { g.stack with
    entries := g.stack.entries ++ fired, passes := h.stack.passes }

theorem OnlyFires.emissionFrame {kind : EventKind} {subject : ObjectRef} {g h : Game}
    (fires : OnlyFires { g with players := Step.losersMarked kind subject g.players } h) :
    EmissionFrame kind subject g h := by
  have frame := fires.frame
  obtain ⟨fired, grown, triggered, -⟩ := fires.fired
  refine
    { eventDepth := by rw [frame], config := by rw [frame], cards := by rw [frame]
      seats := ?_, player := Step.player_losersMarked kind subject (by rw [frame])
      turn := by rw [frame], random := by rw [frame], resolving := by rw [frame]
      observers := by rw [frame], stack := ⟨fired, triggered, ?_⟩ }
  · rw [frame]
    exact Step.count_losersMarked _ _ _
  · rw [← grown]
    exact congrArg Game.stack frame

/-- Emissions end: at the depth cap an event is dropped with a notice, and below it the event is
noted and reacted to by further emissions one level in. Either way nothing is touched but the stack,
on which triggered uses are put, and the mark of the player whom a lose event is about. -/
theorem Step.emit_frame (kind : EventKind) (subject : ObjectRef) (g : Game) :
    if g.config.maxEventDepth.toNat ≤ g.eventDepth then
      StateT.run (emit kind subject) g =
        ((), g.record (.noticed (.eventDropped g.eventDepth kind subject)))
    else
      StateT.run (emit kind subject) g =
          StateT.run (react emit kind subject g.resolving) (noted kind subject g) ∧
        EmissionFrame kind subject g (StateT.run (emit kind subject) g).2 := by
  split
  · next deep => exact emit_dropped kind subject deep
  · next shallow =>
    have room := Nat.lt_of_not_le shallow
    exact ⟨emit_eq_react kind subject room, (emit_onlyFires kind subject room).emissionFrame⟩

theorem Step.emit_leaves (kind : EventKind) (subject : ObjectRef) {g : Game}
    (room : g.eventDepth < g.config.maxEventDepth.toNat) :
    EmissionFrame kind subject g (StateT.run (emit kind subject) g).2 :=
  (emit_onlyFires kind subject room).emissionFrame

/-- An emission is dropped with a notice, or it leaves all but the stack and the loser's mark. -/
theorem Step.emit_cases (kind : EventKind) (subject : ObjectRef) (g : Game) :
    (StateT.run (emit kind subject) g).2 =
        g.record (.noticed (.eventDropped g.eventDepth kind subject)) ∨
      EmissionFrame kind subject g (StateT.run (emit kind subject) g).2 :=
  (Nat.lt_or_ge g.eventDepth g.config.maxEventDepth.toNat).symm.imp
    (fun deep => congrArg Prod.snd (emit_dropped kind subject deep)) (emit_leaves kind subject)

structure AbilityUse.Fired (u : AbilityUse) (a : Triggered) : Prop where
  kind : u.kind = .triggered
  x : u.x = 0
  effects : ∃ v : AbilityUse, v.effects = [] ∧
    List.Forall₂ PlannedEffect.Aimed (v.prepare a.effect).effects u.effects

/-- A property that the firing of triggers keeps, as long as the uses that are fired are of some
sort. Only events about targets are nested in an emission. -/
structure KeptByFiring (may : AbilityUse → Prop) (P : Game → Prop) : Prop where
  targeting : KeptByTargeting P
  triggered : ∀ {g c i a u}, P g → g.card? c = some i → a ∈ i.card.triggered → u.Fired a → may u
  numbered : ∀ g, P g → P { g with nextUse := g.nextUse + 1 }
  pushed : ∀ g u, P g → may u → P (g.modifyStack (·.push u))
  handled : ∀ g h e, P g → P (g.record (.handled h e))
  target : ∀ g o, P g → P (Step.noted .target o g)
  dropped : ∀ g o, P g → P (g.record (.noticed (.eventDropped g.eventDepth .target o)))
  returned : ∀ g, P g → P { g with eventDepth := g.eventDepth - 1 }

theorem KeptByFiring.of_blind {may : AbilityUse → Prop} (blind : BlindToTalk P)
    (depth : ∀ g d, P g → P { g with eventDepth := d })
    (triggered : ∀ {g c i a u}, P g → g.card? c = some i → a ∈ i.card.triggered → u.Fired a → may u)
    (numbered : ∀ g, P g → P { g with nextUse := g.nextUse + 1 })
    (pushed : ∀ g u, P g → may u → P (g.modifyStack (·.push u))) : KeptByFiring may P where
  targeting := blind.targeting
  triggered := triggered
  numbered := numbered
  pushed := pushed
  handled _ _ _ start := blind.record _ start
  target g _ start :=
    blind.record (g := { g with eventDepth := g.eventDepth + 1 }) _ (depth g _ start)
  dropped _ _ start := blind.record _ start
  returned g start := depth g _ start

/-- Reactions to an event add nothing to a reading of the chronicle that passes over what they
write: the choices of targets, and which observers are told. -/
theorem KeptByFiring.of_reading {α : Type} {read : Entry → Option α}
    (asked : ∀ p options count reply, read (.asked p (.target options count) reply) = none)
    (outOfRange : ∀ p index options, read (.noticed (.answerOutOfRange p index options)) = none)
    (handled : ∀ h e, read (.handled h e) = none)
    (target : ∀ source o, read (.emitted ⟨.target, source, o⟩) = none)
    (dropped : ∀ depth o, read (.noticed (.eventDropped depth .target o)) = none) (told : List α) :
    KeptByFiring (fun _ => True) fun g => g.reading read = told where
  targeting p options := Step.keeps_chooseMany_of_prompt
    (KeptByPrompt.of_reading (asked p options 1) (outOfRange p) told) 1
  triggered _ _ _ _ := trivial
  numbered _ same := same
  pushed _ _ same _ := same
  handled _ _ _ same := (Game.reading_record_of_none (handled _ _)).trans same
  target _ _ same := (Game.reading_record_of_none (target _ _)).trans same
  dropped _ _ same := (Game.reading_record_of_none (dropped _ _)).trans same
  returned _ same := same

namespace KeptByFiring

open Step

variable {may : AbilityUse → Prop} (k : KeptByFiring may P)
include k

section Announcing

variable {announce : Announce} (targets : ∀ o, Keeps P (announce .target o))
include targets

theorem keeps_fire {a : Triggered} (allowed : ∀ u : AbilityUse, u.Fired a → may u)
    (kind : EventKind) (subject : ObjectRef) (c : CardId) (controller : PlayerId) :
    Keeps P (fire announce kind subject c controller a) := by
  refine keeps_get.bind fun known => ?_
  dsimp only
  split
  · refine (keeps_nextUseId k.numbered).bind fun id g start => ?_
    let v : AbilityUse := { AbilityUse.fresh id .triggered c controller with
      event := kind, subject := some subject, this := [subject] }
    have picked := keeps_pickUse_of_targeting k.targeting targets (v.prepare a.effect) g start
    have becomes := (v.prepareClauses_becomes a.effect.effects).trans
      (pickUse_becomes announce (v.prepare a.effect) g)
    refine k.pushed _ _ picked (allowed _ ⟨becomes.kind_eq, becomes.x_eq, v, rfl, ?_⟩)
    exact pickUse_aimed announce (v.prepare a.effect) g
  · exact keeps_pure ()

theorem keeps_fireCard (kind : EventKind) (subject : ObjectRef) (c : CardId) :
    Keeps P (fireCard announce kind subject c) := by
  have read : Ends P get fun known g => known = g ∧ P g := ends_get fun g start => ⟨rfl, start⟩
  change Ends P (fireCard announce kind subject c) fun _ => P
  refine read.bind fun known g start => ?_
  obtain ⟨rfl, start⟩ := start
  split
  · exact start
  · next i found =>
    have fired : ∀ l : List Triggered, (∀ a ∈ l, a ∈ i.card.triggered) →
        Keeps P (l.forM (fire announce kind subject c i.controller)) := by
      intro l
      induction l with
      | nil => exact fun _ => keeps_pure ()
      | cons a rest ih =>
        refine fun listed => Keeps.bind ?_ fun _ => ih fun b mem => listed b (.tail _ mem)
        exact k.keeps_fire targets (fun u => k.triggered start found (listed a (.head _))) kind
          subject c _
    split
    · exact fired _ (fun _ mem => mem) known start
    · exact start

theorem keeps_react (kind : EventKind) (subject : ObjectRef) (source : Option CardId) :
    Keeps P (react announce kind subject source) := by
  have fired : Keeps P (fireTriggers announce kind subject) :=
    keeps_get.bind fun g => Keeps.forM (k.keeps_fireCard targets kind subject) _
  exact fired.bind fun _ => (keeps_tellObservers_of_handling fun g h =>
    k.handled g h _).bind fun _ =>
    keeps_modify k.returned

end Announcing

theorem keeps_target (o : ObjectRef) : Keeps P (emit .target o) := by
  have within : ∀ room o, Keeps P (emitWithin room .target o) := by
    intro room
    induction room with
    | zero => exact fun o g start => k.dropped g o start
    | succ room ih =>
      intro o g start
      rw [emitWithin_succ_run]
      exact k.keeps_react ih .target o _ _ (k.target g o start)
  exact keeps_get.bind fun _ => within _ o

theorem emit_of {kind : EventKind} {subject : ObjectRef} {g : Game}
    (noted : P (noted kind subject g))
    (dropped : P (g.record (.noticed (.eventDropped g.eventDepth kind subject)))) :
    P (StateT.run (emit kind subject) g).2 := by
  by_cases deep : g.config.maxEventDepth.toNat ≤ g.eventDepth
  · rw [emit_dropped kind subject deep]
    exact dropped
  · rw [emit_eq_react kind subject (Nat.lt_of_not_le deep)]
    exact k.keeps_react k.keeps_target kind subject _ _ noted

theorem keeps_emit {kind : EventKind} {subject : ObjectRef}
    (noted : ∀ g, P g → P (noted kind subject g))
    (dropped : ∀ g, P g → P (g.record (.noticed (.eventDropped g.eventDepth kind subject)))) :
    Keeps P (emit kind subject) :=
  fun g start => k.emit_of (noted g start) (dropped g start)

end KeptByFiring

end CardGame
