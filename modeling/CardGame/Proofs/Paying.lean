import CardGame.Proofs.Failing

/-!
How paying can fail. Targets that are chosen are cards of the game, and a cost that was found
affordable is paid; so casting a card or using an ability does not fail once its checks are passed,
unless what the ability does at once fails.
-/

namespace CardGame

namespace Step

variable {cs : List CardId} (announce : Announce)
  (targets : ∀ (cs : List CardId) o, Keeps (Knows cs) (announce .target o))
include targets

theorem ends_pickTarget (u : AbilityUse) (m : Match) (zones : Option ZoneMatch) :
    Ends (Knows cs) (pickTarget announce u m zones) fun r => Knows (cardsOf r.1 ++ cs) := by
  have known : Ends (Knows cs) get fun known => Knows (cardsOf
      (known.query u (some m) (some (zones.getD [.board])) none .candidates) ++ cs) :=
    ends_get fun g start => start.also fun c mem =>
      start.agree.known_of_query (mem_cardsOf.1 mem)
  refine known.bind fun known => ?_
  dsimp only
  generalize known.query u (some m) (some (zones.getD [.board])) none .candidates = options
  refine (keeps_chooseMany (Knows.kept _).talk _ _ _).ends.bind fun chosen => ?_
  split
  · exact ends_pure fun _ knows => knows.without
  · next target found =>
    refine (targets _ target).ends.bind fun _ => ends_pure fun g knows => knows.sub ?_
    obtain ⟨k, -, found⟩ := Option.bind_eq_some_iff.1 found
    intro c mem
    rcases List.mem_append.1 mem with single | mem
    · refine List.mem_append_left _ (mem_cardsOf.2 ?_)
      rw [List.mem_singleton.1 (mem_cardsOf.1 single)]
      exact List.mem_of_getElem? found
    · exact List.mem_append_right _ mem

theorem ends_pick (u : AbilityUse) (m : Match) (zones : Option ZoneMatch) :
    Ends (Knows cs) (pick announce u m zones) fun r => Knows (cardsOf r.1 ++ cs) := by
  unfold pick
  split
  · exact ends_pickTarget announce targets u m zones
  · refine Ends.bind (Q := fun known g => known = g ∧ Knows cs g)
      (ends_get fun _ start => ⟨rfl, start⟩)
      fun known => ends_pure fun g start => ?_
    obtain ⟨rfl, knows⟩ := start
    have found : ∀ c ∈ cardsOf (known.query u (some m) zones none .bound), (known.card? c).isSome :=
      fun c mem => knows.agree.known_of_query (mem_cardsOf.1 mem)
    exact knows.also found

theorem ends_pickSubjects (u : AbilityUse) {earlier : List PlannedEffect} {e : PlannedEffect}
    (before : ∀ d ∈ earlier, ∀ c ∈ d.picks, c ∈ cs) (picked : ∀ c ∈ e.picks, c ∈ cs) :
    Ends (Knows cs) (pickSubjects announce u earlier e) fun r => Knows (r.1.picks ++ cs) := by
  have asked : ∀ subjects : List ObjectRef, ∀ g, Knows (cardsOf subjects ++ cs) g →
      Knows (({ e with subjects := subjects, subjectsPicked := true } : PlannedEffect).picks ++
        cs) g := by
    intro subjects g knows
    refine knows.sub fun c mem => ?_
    simp only [PlannedEffect.picks, List.mem_append] at mem picked ⊢
    rcases mem with (subject | object) | other
    · exact .inl subject
    · exact .inr (picked c (.inr object))
    · exact .inr other
  unfold pickSubjects
  split
  · exact ends_pure fun g knows => knows.also fun c mem => knows.known (picked c mem)
  · split
    · next d found =>
      refine ends_pure fun g knows => asked d.subjects g (knows.also fun c mem => ?_)
      exact knows.known (before d (List.mem_of_find?_eq_some found) c (List.mem_append_left _ mem))
    · exact (ends_pick announce targets u _ none).bind fun r => ends_pure fun g knows =>
        asked r.1 g knows

theorem ends_pickObjects (u : AbilityUse) {e : PlannedEffect} (picked : ∀ c ∈ e.picks, c ∈ cs) :
    Ends (Knows cs) (pickObjects announce u e) fun r => Knows (r.1.picks ++ cs) := by
  unfold pickObjects
  split
  · exact ends_pure fun g knows => knows.also fun c mem => knows.known (picked c mem)
  · refine (ends_pick announce targets u _ e.zone).bind fun r => ends_pure fun g knows => ?_
    refine knows.sub fun c mem => ?_
    simp only [PlannedEffect.picks, List.mem_append] at mem picked ⊢
    rcases mem with (subject | object) | other
    · exact .inr (picked c (.inl subject))
    · exact .inl object
    · exact .inr other

theorem ends_pickEffects (u : AbilityUse) {earlier rest : List PlannedEffect}
    (before : ∀ e ∈ earlier, ∀ c ∈ e.picks, c ∈ cs) (after : ∀ e ∈ rest, ∀ c ∈ e.picks, c ∈ cs) :
    Ends (Knows cs) (pickEffects announce u earlier rest) fun v =>
      Knows (v.effects.flatMap (·.picks) ++ cs) := by
  induction rest generalizing u earlier cs with
  | nil =>
    refine ends_pure fun g knows => knows.also fun c mem => ?_
    obtain ⟨e, listed, mem⟩ := List.mem_flatMap.1 mem
    exact knows.known (before e listed c mem)
  | cons e rest ih =>
    refine (ends_pickSubjects announce targets u before (after e (.head _))).bind fun ⟨d, v⟩ => ?_
    refine (ends_pickObjects announce targets v fun c mem => List.mem_append_left _ mem).bind
      fun ⟨f, w⟩ => ?_
    have further : ∀ c ∈ cs, c ∈ f.picks ++ (d.picks ++ cs) := fun c mem =>
      List.mem_append_right _ (List.mem_append_right _ mem)
    have passed : ∀ k ∈ earlier ++ [f], ∀ c ∈ k.picks, c ∈ f.picks ++ (d.picks ++ cs) := by
      intro k listed c mem
      rcases List.mem_append.1 listed with listed | single
      · exact further c (before k listed c mem)
      · exact List.mem_append_left _ (List.mem_singleton.1 single ▸ mem)
    refine (ih w passed fun k listed c mem => further c (after k (.tail _ listed) c mem)).weaken
      (fun _ start => start) fun x g picked => picked.sub fun c mem => ?_
    exact (List.mem_append.1 mem).elim (List.mem_append_left _) fun mem =>
      List.mem_append_right _ (further c mem)

end Step

theorem Game.canAfford_of_canPay {g : Game} {c : CardId} {i : CardInstance}
    {costs : List CostSymbol} {x : Amount} (found : g.card? c = some i) (can : g.canPay c costs x) :
    (g.player i.controller).essence.canAfford costs x := by
  rw [canPay, found] at can
  exact (Bool.and_eq_true_iff.1 can).2

namespace Act

variable {cs : List CardId} {c : CardId} {F : EngineError → Game → Prop}

theorem ends_pickUse {u : AbilityUse} (picked : ∀ e ∈ u.effects, ∀ c ∈ e.picks, c ∈ cs) :
    Ends (Knows cs) (liftM (Step.pickUse Step.emit u)) (fun v g =>
      (u.Becomes v ∧ List.Forall₂ PlannedEffect.Aimed u.effects v.effects) ∧
        Knows (v.effects.flatMap (·.picks) ++ cs) g) F := by
  have chosen : Ends (Knows cs) (liftM (Step.pickUse Step.emit u)) (fun v =>
      Knows (v.effects.flatMap (·.picks) ++ cs)) F :=
    ends_lift (Step.ends_pickEffects Step.emit (fun cs o => (Knows.kept cs).emit .target o) u
      (fun _ mem => nomatch mem) picked)
  have aimed := chosen.giving (gives_lift (Step.pickUse_aimed Step.emit u)) fun _ _ chosen aimed =>
    And.intro aimed chosen
  exact aimed.giving (gives_lift (Step.pickUse_becomes Step.emit u)) fun v g chosen becomes =>
    ⟨⟨becomes, chosen.1⟩, chosen.2⟩

theorem Overfull.of_aimed {u v : AbilityUse} {e : EngineError} (overfull : Overfull v e)
    (aimed : List.Forall₂ PlannedEffect.Aimed u.effects v.effects) : Overfull u e := by
  obtain ⟨⟨d, mem, shuffles⟩, crowded⟩ := overfull
  obtain ⟨k, listed, same⟩ := PlannedEffect.Aimed.exists_of_mem aimed mem
  exact ⟨⟨k, listed, same.effect_eq ▸ shuffles⟩, crowded⟩

theorem ends_pay_of_canAfford {P : Game → Prop} {g : Game} {i : CardInstance}
    {costs : List CostSymbol} {x : Amount} (found : g.card? c = some i)
    (can : (g.player i.controller).essence.canAfford costs x)
    (taken : P (g.modifyPlayer i.controller fun s =>
      { s with essence := ((g.player i.controller).essence.pay costs x).2 }))
    (symbols : ∀ symbol, Ends P (paySymbol c symbol) (fun _ => P) F) :
    Ends (fun h => h = g) (pay c costs x) (fun _ => P) F := by
  refine (ends_readCard fun h same => same ▸ found).bind fun j => .given fun same => ?_
  refine ends_readGiven.bind fun k => .given fun same' => ?_
  subst same same'
  dsimp only
  rw [show ((k.player j.controller).essence.pay costs x).1 = true from can]
  exact Ends.bind (ends_modifyThe fun h same => same ▸ taken) fun _ =>
    (ends_pure fun _ start => start).bind fun _ => Ends.forM fun symbol _ => symbols symbol

theorem ends_pay (mem : c ∈ cs) (costs : List CostSymbol) (x : Amount) :
    Ends (fun g => Knows cs g ∧ g.canPay c costs x) (pay c costs x) (fun _ => Knows cs) F := by
  have symbols : ∀ symbol, Ends (Knows cs) (paySymbol c symbol) (fun _ => Knows cs) F := by
    intro symbol
    cases symbol with
    | activate => exact (ends_mark (fun _ => rfl) mem).bind fun _ => ends_emit _ _
    | deactivate => exact (ends_mark (fun _ => rfl) mem).bind fun _ => ends_emit _ _
    | _ => exact ends_pure fun _ knows => knows
  intro g start
  obtain ⟨i, found⟩ := Option.isSome_iff_exists.1 (start.1.known mem)
  have afford := Game.canAfford_of_canPay found start.2
  have kept := (Knows.kept cs).account (Stores.pay costs x).accounts g i.controller start.1
  rw [Game.modifyPlayer_congr (k := fun s => { s with
    essence := ((g.player i.controller).essence.pay costs x).2 }) rfl] at kept
  exact ends_pay_of_canAfford found afford kept symbols g rfl

theorem ends_nextUseId : Ends (Knows cs) (liftM Step.nextUseId) (fun _ => Knows cs) F :=
  ends_lift fun _ knows => ⟨knows.agree.of_frame rfl rfl, knows.2⟩

theorem ends_castFor (p : PlayerId) (mem : c ∈ cs) (i : CardInstance) (field : Option Nat)
    (x : Amount) :
    Ends (fun g => Knows cs g ∧ g.canPay c i.card.costs x) (castFor p c i field x)
      (fun _ _ => True) F :=
  (ends_pay mem _ x).bind fun _ => ends_nextUseId.bind fun _ =>
    (ends_moveElsewhere (by simp) mem (by decide)).bind fun _ => ends_lift fun _ _ => trivial

theorem Ends.afterPicking {α : Type} {u : AbilityUse} {next : AbilityUse → Act α}
    {Q : α → Game → Prop} (source : u.source ∈ cs) (unpicked : ∀ e ∈ u.effects, e.picks = [])
    (done : ∀ {v ds}, u.Becomes v → v.source ∈ ds → (∀ e ∈ v.effects, ∀ c ∈ e.picks, c ∈ ds) →
      (∀ c ∈ cs, c ∈ ds) → Ends (Knows ds) (next v) Q fun e _ => Overfull v e) :
    Ends (Knows cs) (liftM (Step.pickUse Step.emit u) >>= next) Q fun e _ => Overfull u e := by
  refine (ends_pickUse fun e mem c among => ?_).bind fun v => .given fun ⟨becomes, aimed⟩ => ?_
  · rw [unpicked e mem] at among
    exact nomatch among
  · have within : ∀ c ∈ cs, c ∈ v.effects.flatMap (·.picks) ++
        cs := fun _ => List.mem_append_right _
    have known := done becomes (within _ (becomes.source_eq ▸ source))
      (fun e mem c among => List.mem_append_left _ (List.mem_flatMap.2 ⟨e, mem, among⟩)) within
    exact known.failing fun _ _ failed => failed.of_aimed aimed

theorem ends_payActions {u : AbilityUse} (source : u.source ∈ cs)
    (unpicked : ∀ e ∈ u.effects, e.picks = []) :
    Ends (Knows cs) (payActions u) (fun v g => (u.Becomes v ∧ v.effects = []) ∧ Knows cs g)
      fun e _ => Overfull u e := by
  have paid : Ends (Knows cs) (payActions u) (fun v g => v.effects = [] ∧ Knows cs g)
      fun e _ => Overfull u e := by
    unfold payActions
    split
    · next none => exact ends_pure fun _ knows => ⟨List.isEmpty_iff.1 none, knows⟩
    · exact Ends.afterPicking source unpicked fun _ known picked within =>
        (ends_resolveNow known picked).bind fun _ => ends_pure fun _ knows =>
          ⟨rfl, knows.sub within⟩
  exact paid.giving (payActions_becomes u) fun v g paid becomes => ⟨⟨becomes, paid.1⟩, paid.2⟩

theorem ends_activateFor (p : PlayerId) (mem : c ∈ cs) (a : Activated) (x : Amount) :
    Ends (fun g => Knows cs g ∧ g.canPay c a.resourceCosts x) (activateFor p c a x)
      (fun _ _ => True)
      fun fault _ => a.shufflesOntoBoard ∧ Crowded fault := by
  refine (ends_pay mem _ x).bind fun _ => ends_nextUseId.bind fun id => ?_
  let fresh : AbilityUse := { AbilityUse.fresh id .activated c p with x := x }
  have becomes : fresh.Becomes (fresh.prepareClauses a.effectCosts) :=
    fresh.prepareClauses_becomes _
  have source : fresh.source ∈ cs := mem
  have costs := fresh.prepareClauses_spec rfl a.effectCosts
  have paid := ends_payActions (u := fresh.prepareClauses a.effectCosts)
    (becomes.source_eq ▸ source)
    fun e listed => (costs e listed).1
  refine (paid.failing fun fault _ failed => ?_).bind fun v => .given fun ⟨later, empty⟩ => ?_
  · obtain ⟨⟨e, listed, shuffles⟩, crowded⟩ := failed
    refine ⟨?_, crowded⟩
    rw [Activated.shufflesOntoBoard, List.any_append, (costs e listed).2 shuffles, Bool.true_or]
  split
  · next cost =>
    have effects := v.prepareClauses_spec empty a.effect.effects
    have grown := (becomes.trans later).trans (v.prepareClauses_becomes a.effect.effects)
    have kind : (v.prepare a.effect).kind = .activated := grown.kind_eq
    have resolved : Ends (Knows cs) (liftM (Step.pickUse Step.emit (v.prepare a.effect)) >>=
      resolveUse)
        (fun _ _ => True) fun e _ => Overfull (v.prepare a.effect) e :=
      Ends.afterPicking (grown.source_eq ▸ source) (fun e listed => (effects e listed).1)
        fun picked known among _ =>
          (ends_resolveUse (picked.kind_eq ▸ kind ▸ nofun) known among).after
          fun _ _ _ => trivial
    refine (resolved.failing fun fault _ failed => ?_).bind fun _ =>
      ends_modifyThe fun _ _ => trivial
    obtain ⟨⟨e, listed, shuffles⟩, crowded⟩ := failed
    refine ⟨?_, crowded⟩
    rw [Activated.shufflesOntoBoard, List.any_append, if_pos cost, (effects e listed).2 shuffles,
      Bool.or_true]
  · exact ends_lift fun _ _ => trivial

end Act

end CardGame
