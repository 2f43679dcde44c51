import CardGame.Proofs.Failing
import CardGame.Proofs.Stack
import Mathlib.Data.List.Forall2

/-!
Cards that name themselves. A clause of cards without a subject acts with its source wherever that
is; one that names the card searches the boards and the stack for it, and of the stack only what
waits counts. A use that resolves waits no longer, so a spell that names itself finds nothing and
does nothing, unless its card is on a board or another use of it waits.
-/

namespace CardGame

/-- Whether a card is on a board, or a use of it waits. -/
def Game.inPlay (g : Game) (c : CardId) : Bool :=
  (g.card? c).any fun i => i.zone == .board || g.stack.entries.any (·.source == c)

structure PlannedEffect.NamesSource (e : PlannedEffect) : Prop where
  cards : ∃ effect, e.effect = .card effect
  named : e.subject = some (.card [.named])
  unpicked : e.subjectsPicked = false

def PlannedEffect.unnamed (e : PlannedEffect) : PlannedEffect :=
  { e with subject := none }

theorem eraseDups_filter_beq {α : Type} [BEq α] [LawfulBEq α] (l : List α) (a : α) :
    (l.filter (· == a)).eraseDups = if l.contains a then [a] else [] := by
  rw [List.filter_beq]
  by_cases mem : a ∈ l
  · obtain ⟨n, positive⟩ := Nat.exists_eq_add_one.2 (List.count_pos_iff.2 mem)
    rw [if_pos (List.contains_iff_mem.2 mem), positive, List.replicate_succ, List.eraseDups_cons,
      List.filter_eq_nil_iff.2, List.eraseDups_nil]
    intro b repeated
    rw [List.eq_of_mem_replicate repeated]
    simp
  · rw [if_neg (by simpa using mem), List.count_eq_zero_of_not_mem mem]
    rfl

theorem Game.cardsIn_of_ne (g : Game) (p : PlayerId) (s : Player) {z : Zone}
    (ordered : z ≠ .stack) :
    g.cardsIn p s z = s.holds z := by
  cases z <;> first | rfl | exact absurd rfl ordered

theorem Game.mem_toList {g : Game} {p : PlayerId} (seated : p.seat < g.players.count) :
    (p, g.player p) ∈ g.players.toList := by
  rw [toList_players]
  exact List.mem_map.2 ⟨p.seat, List.mem_range.2 seated, rfl⟩

namespace ZonesAgree

variable {g : Game} (agree : ZonesAgree g) {c : CardId} {i : CardInstance}
include agree

theorem mem_searchedCards_iff (found : g.card? c = some i) (zones : Option ZoneMatch) :
    c ∈ g.searchedCards zones ↔ (i.zone ≠ .stack ∧ zones.all (·.contains i.zone)) ∨
      zones.all (·.contains .stack) ∧ ∃ u ∈ g.stack.entries, u.source = c := by
  have housed := (agree c).housed i found
  simp only [Game.searchedCards, List.mem_flatMap, List.mem_filter, Prod.exists]
  constructor
  · rintro ⟨p, s, seat, z, ⟨-, searched⟩, mem⟩
    obtain rfl := Game.player_of_mem_toList seat
    by_cases stacked : z = .stack
    · subst stacked
      exact .inr ⟨searched, List.mem_map.1 (List.mem_filter.1 mem).1⟩
    · rw [Game.cardsIn_of_ne _ _ _ stacked] at mem
      obtain rfl := (housed.eq_of_holds mem).2
      exact .inl ⟨stacked, searched⟩
  · have seat := Game.mem_toList housed.seated
    rintro (⟨ordered, searched⟩ | ⟨searched, waits⟩)
    · refine ⟨_, _, seat, i.zone, ⟨by cases i.zone <;> decide, searched⟩, ?_⟩
      rw [Game.cardsIn_of_ne _ _ _ ordered]
      refine List.count_pos_iff.1 ?_
      rw [housed.counted, if_pos ⟨rfl, rfl, ordered⟩]
      exact Nat.one_pos
    · refine ⟨_, _, seat, .stack, ⟨by decide, searched⟩,
        List.mem_filter.2 ⟨List.mem_map.2 waits, ?_⟩⟩
      rw [found]
      exact beq_self_eq_true _

theorem contains_searchedCards (c : CardId) :
    (g.searchedCards (some [.board, .stack])).contains c = g.inPlay c := by
  rw [Bool.eq_iff_iff, List.contains_iff_mem]
  cases found : g.card? c with
  | none =>
    refine iff_of_false (fun mem => ?_) (by simp [Game.inPlay, found])
    have := agree.known_of_searched mem
    rw [found] at this
    exact nomatch this
  | some i =>
    rw [agree.mem_searchedCards_iff found]
    cases zone : i.zone <;> simp [Game.inPlay, found, zone]

theorem subjectsOf_named {u : AbilityUse} {e : PlannedEffect} (names : e.NamesSource) :
    g.subjectsOf u e = if g.inPlay u.source then [.card u.source] else [] := by
  have players : (g.players.ids.map ObjectRef.player).filter
      (g.holds u .bound (.card [.named])) = [] := by
    refine List.filter_eq_nil_iff.2 fun o mem => ?_
    obtain ⟨p, -, rfl⟩ := List.mem_map.1 mem
    exact Bool.false_ne_true
  have cards : ((g.searchedCards (some [.board, .stack])).map ObjectRef.card).filter
      (g.holds u .bound (.card [.named])) =
      ((g.searchedCards (some [.board, .stack])).map ObjectRef.card).filter
        (· == .card u.source) := by
    refine List.filter_congr fun o mem => ?_
    obtain ⟨c, -, rfl⟩ := List.mem_map.1 mem
    change g.cardHolds u .bound [.named] c = _
    rw [Bool.eq_iff_iff]
    simp only [Game.cardHolds, Game.alternativeHolds, Bool.or_false, beq_iff_eq,
      ObjectRef.card.injEq]
  obtain ⟨effect, group, optional, subject, pending, zone, subjects, subjectsPicked, objects,
    picked⟩ := e
  obtain ⟨⟨effect, rfl⟩, rfl, rfl⟩ := names
  change _ ++ _ = _
  rw [players, cards, eraseDups_filter_beq, List.nil_append, ← agree.contains_searchedCards]
  congr 1
  simp

end ZonesAgree

namespace Act

theorem run_resolveEffect_named {g : Game} (agree : ZonesAgree g) {r : Resolution}
    {e : PlannedEffect} (names : e.NamesSource) : StateT.run (ExceptT.run (resolveEffect r e)) g =
      if g.inPlay r.use.source then StateT.run (ExceptT.run (resolveEffect r e.unnamed)) g
      else (.ok r, g) := by
  have subjects := agree.subjectsOf_named (u := r.use) names
  obtain ⟨effect, group, optional, subject, pending, zone, subjects, subjectsPicked, objects,
    picked⟩ := e
  obtain ⟨⟨effect, rfl⟩, rfl, rfl⟩ := names
  rw [resolveEffect, run_bind_of_ok (run_getThe g), resolveEffect, run_bind_of_ok (run_getThe g)]
  dsimp only [PlannedEffect.unnamed]
  rw [subjects]
  split <;> rfl

theorem run_resolveEffects_absent {g : Game} (agree : ZonesAgree g) {r : Resolution}
    {es : List PlannedEffect} (names : ∀ e ∈ es, e.NamesSource) (absent : ¬ g.inPlay r.use.source) :
    StateT.run (ExceptT.run (es.foldlM resolveEffect r : Act Resolution)) g = (.ok r, g) := by
  induction es with
  | nil => rfl
  | cons e rest ih =>
    have nothing := run_resolveEffect_named agree (r := r) (names e (.head _))
    rw [if_neg absent] at nothing
    rw [List.foldlM_cons, run_bind_of_ok nothing]
    exact ih fun d mem => names d (.tail _ mem)

def finish (u : AbilityUse) : Act Unit :=
  if u.kind = .cast then finishCast u else pure ()

theorem run_resolveUse_of_ok {u v : AbilityUse} {g h : Game}
    (ran : StateT.run (ExceptT.run (resolveEffects u)) { g with resolving := some u.source } =
      (.ok v, h)) :
    StateT.run (ExceptT.run (resolveUse u)) g = ((StateT.run (ExceptT.run (finish u)) h).1,
      { (StateT.run (ExceptT.run (finish u)) h).2 with resolving := g.resolving }) := by
  have rest : StateT.run (ExceptT.run
    (finish u >>= fun _ => ofOutcome (.ok v) >>= fun _ => pure ())) h =
      StateT.run (ExceptT.run (finish u)) h := by
    change StateT.run (ExceptT.bindCont (fun _ => pure ())
      (StateT.run (ExceptT.run (finish u)) h).1)
      (StateT.run (ExceptT.run (finish u)) h).2 = _
    cases StateT.run (ExceptT.run (finish u)) h with
    | mk result k => cases result <;> rfl
  rw [resolveUse, run_onBehalfOf, run_attempt_bind, ran, ← rest]
  unfold finish
  split <;> rfl

end Act

def Waits (c : CardId) (g : Game) : Prop :=
  Knows [c] g ∧ ∃ u ∈ g.stack.entries, u.source = c

namespace Waits

theorem inPlay {c : CardId} {g : Game} (waits : Waits c g) : g.inPlay c := by
  obtain ⟨knows, u, listed, same⟩ := waits
  obtain ⟨i, found⟩ := Option.isSome_iff_exists.1 (knows.known (.head _))
  have sourced : g.stack.entries.any (·.source == c) :=
    List.any_eq_true.2 ⟨u, listed, beq_iff_eq.2 same⟩
  rw [Game.inPlay, found, Option.any_some, sourced, Bool.or_true]

theorem kept (c : CardId) : KeptByChanges (Waits c) := by
  refine (Knows.kept [c]).and (.of_fires fun ⟨u, listed, same⟩ fires => ?_)
  obtain ⟨fired, grown, -⟩ := fires.fired
  exact ⟨u, grown ▸ List.mem_append_left _ listed, same⟩

end Waits

/-- The same effect, or the one without a subject for one that names its source. -/
def PlannedEffect.Respelled (e d : PlannedEffect) : Prop :=
  d = e ∨ e.NamesSource ∧ d = e.unnamed

theorem Act.run_resolveEffects_respelled {c : CardId} {g : Game} (waits : Waits c g)
    {es ds : List PlannedEffect} (alike : List.Forall₂ PlannedEffect.Respelled es ds)
    {r : Resolution} (source : r.use.source = c) :
    StateT.run (ExceptT.run (es.foldlM resolveEffect r : Act Resolution)) g =
      StateT.run (ExceptT.run (ds.foldlM resolveEffect r : Act Resolution)) g := by
  induction alike generalizing r g with
  | nil => rfl
  | @cons e d es ds same _ ih =>
    have first : StateT.run (ExceptT.run (resolveEffect r e)) g =
        StateT.run (ExceptT.run (resolveEffect r d)) g := by
      rcases same with rfl | ⟨names, rfl⟩
      · rfl
      · rw [run_resolveEffect_named waits.1.agree names, if_pos (source ▸ waits.inPlay)]
    rw [List.foldlM_cons, List.foldlM_cons]
    refine run_bind_congr first fun s h ran => ih ?_ ?_
    · exact ((Waits.kept c).keeps_resolveEffect r e).leads.success waits ran
    · exact ((resolveEffect_becomes r e).success trivial ran).source_eq.trans source

/-- How a use that is off the stack fares with the effects that name its source. -/
structure NamedSource (u : AbilityUse) (g : Game) : Prop where
  /-- Such an effect acts with the source when that is in play by then, and is nothing otherwise. -/
  turn : ∀ before e after r h, u.effects = before ++ e :: after → e.NamesSource →
    StateT.run (ExceptT.run (before.foldlM Act.resolveEffect ⟨u, []⟩ : Act Resolution))
      { g with resolving := some u.source } = (.ok r, h) →
    StateT.run (ExceptT.run (Act.resolveEffect r e)) h =
      if h.inPlay u.source then StateT.run (ExceptT.run (Act.resolveEffect r e.unnamed)) h
      else (.ok r, h)
  /-- While another use of the source waits, the effects resolve as without their subjects. -/
  waiting : Waits u.source g → ∀ ds : List PlannedEffect,
    List.Forall₂ PlannedEffect.Respelled u.effects ds →
    StateT.run (ExceptT.run (u.effects.foldlM Act.resolveEffect ⟨u, []⟩ : Act Resolution))
        { g with resolving := some u.source } =
      StateT.run (ExceptT.run (ds.foldlM Act.resolveEffect ⟨u, []⟩ : Act Resolution))
        { g with resolving := some u.source }
  /-- A use of a card out of play that has no other effects resolves like one that has none. -/
  absent : (∀ e ∈ u.effects, e.NamesSource) → ¬ g.inPlay u.source →
    StateT.run (ExceptT.run (Act.resolveUse u)) g =
      StateT.run (ExceptT.run (Act.resolveUse { u with effects := [] })) g

theorem ZonesAgree.namedSource {g : Game} (agree : ZonesAgree g) (u : AbilityUse) :
    NamedSource u g := by
  have inside : ZonesAgree { g with resolving := some u.source } := agree.of_frame rfl rfl
  refine ⟨fun before e after r h _ names ran => ?_, fun waits ds alike => ?_,
    fun names absent => ?_⟩
  · have kept := Act.Keeps.foldlM keptByChanges_zonesAgree.keeps_resolveEffect before ⟨u, []⟩
    have source := (Act.foldlM_becomes before ⟨u, []⟩).success trivial ran
    rw [Act.run_resolveEffect_named (kept.leads.success inside ran) names, source.source_eq]
  · exact Act.run_resolveEffects_respelled ((Waits.kept _).resolving _ _ waits) alike rfl
  · have nothing : StateT.run (ExceptT.run (Act.resolveEffects u))
      { g with resolving := some u.source } =
        (.ok u, { g with resolving := some u.source }) :=
      Act.run_bind_of_ok (Act.run_resolveEffects_absent inside (r := ⟨u, []⟩) names absent)
    have empty : StateT.run (ExceptT.run (Act.resolveEffects { u with effects := [] }))
        { g with resolving := some u.source } =
          (.ok { u with effects := [] }, { g with resolving := some u.source }) := rfl
    rw [Act.run_resolveUse_of_ok nothing, Act.run_resolveUse_of_ok empty]
    rfl

/-- The top use is taken off the stack before it resolves; so its card is found by its own name only
on a board, or when another use of it waits. -/
theorem Reached.resolveTop_named {g : Game} (reached : Reached g) {u : AbilityUse}
    (top : g.stack.peek? = some u) :
    StateT.run (ExceptT.run Act.resolveTop) g =
        StateT.run (ExceptT.run do Act.resolveUse u; return true) (g.modifyStack (·.pop.2)) ∧
      NamedSource u (g.modifyStack (·.pop.2)) :=
  ⟨Act.resolveTop_of_top top,
    ZonesAgree.namedSource (ZonesAgree.of_frame (h := g.modifyStack (·.pop.2)) (.of_reached reached)
      rfl rfl) u⟩

def Card.bolt : Card :=
  ((blank "Bolt").withKind ⟨.spell, false⟩).withAbility (.composed ⟨[.card (some [.named])
    [.damage (.number 3)
      (.card [.filter ⟨some .target, [.kind ⟨.unit, false⟩], none, none, []⟩])]]⟩)

/-- A bolt that resolves leaves the unit that it targets alone; without its name it would destroy
it. -/
theorem resolveTop_named_bolt :
    ∃ start, Game.create {} [⟨[((Card.blank "Squire").withKind ⟨.unit, false⟩).withStats
        ⟨.number 1, .number 1⟩, .bolt], .first⟩, ⟨[], .pass⟩] = .ok start ∧
      let g := Operation.performAll start [.draw ⟨0⟩ 2, .enterPhase .play, .cast ⟨0⟩ ⟨0⟩ none,
        .resolveTop, .cast ⟨0⟩ ⟨1⟩ none]
      ∃ u, g.stack.peek? = some u ∧ u.targeting = [.card ⟨0⟩] ∧
        NamedSource u (g.modifyStack (·.pop.2)) ∧
        (Operation.resolveTop.perform g).card? ⟨0⟩ = g.card? ⟨0⟩ ∧
        ((Step.leave (Act.outcome (Act.resolveUse { u with effects := u.effects.map (·.unnamed) }))
          (g.modifyStack (·.pop.2))).card? ⟨0⟩).map (·.zone) = some .pile := by
  refine ⟨_, rfl, (PriorityStack.peek? _).get (by decide +kernel), (Option.some_get _).symm,
    by decide +kernel, ?_, by decide +kernel, by decide +kernel⟩
  refine (Reached.resolveTop_named (reached_performAll {}
    [⟨[((Card.blank "Squire").withKind ⟨.unit, false⟩).withStats ⟨.number 1, .number 1⟩, .bolt],
      .first⟩, ⟨[], .pass⟩] rfl _) (Option.some_get _).symm).2

end CardGame
