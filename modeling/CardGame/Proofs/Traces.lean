import CardGame.Proofs.Printed

/-!
What stays on cards that are on no board. Damage, the flip of a source and the slot never do. A
bonus is given, and a card is activated, wherever the card is by then; so these two stay on cards
off the board, but only when some card of the decks has an effect that gives bonuses or one that
activates cards, or is activated to pay for it.
-/

namespace CardGame

namespace SingleEffect

def givesBonus : SingleEffect → Bool
  | card (.gets _ _ _ _) => true
  | _ => false

def activatesCards : SingleEffect → Bool
  | player (.activate _) => true
  | _ => false

end SingleEffect

namespace Card

def givesBonus (c : Card) : Bool :=
  c.effects.any (·.givesBonus)

def activatesCards (c : Card) : Bool :=
  c.costs.contains .activate || c.effects.any (·.activatesCards)

end Card

/-- What may stay on cards that are on no board. -/
structure Traces where
  bonus : Prop
  activation : Prop

/-- An effect that leaves no other traces. -/
structure Traces.Allows (t : Traces) (e : SingleEffect) : Prop where
  bonus : e.givesBonus → t.bonus
  activation : e.activatesCards → t.activation

structure Card.Leaves (t : Traces) (c : Card) : Prop where
  effects : ∀ e ∈ c.effects, t.Allows e
  cost : .activate ∈ c.costs → t.activation

/-- A card as if nothing had happened to it, apart from traces. -/
structure CardInstance.Tidy (t : Traces) (i : CardInstance) : Prop where
  damage : i.damage = 0
  flipped : i.flipped = false
  modifiers : i.modifiers ≠ [] → t.bonus
  activated : i.activated → t.activation

/-- A game whose cards leave only some traces, and bear no others off the board: all of them, or all
but one that moves. -/
structure Neat (t : Traces) (moving : Option CardId) (g : Game) : Prop where
  templates : ∀ c i, g.card? c = some i → i.card.Leaves t
  tidy : ∀ c i, g.card? c = some i → moving ≠ some c → i.zone ≠ .board → i.Tidy t
  uses : ∀ u ∈ g.stack.entries, ∀ e ∈ u.effects, t.Allows e.effect

theorem Traces.allowsRules (t : Traces) : AllowsRules t.Allows :=
  ⟨⟨nofun, nofun⟩, fun _ => ⟨nofun, nofun⟩⟩

theorem Card.Leaves.only {t : Traces} {c : Card} (leaves : c.Leaves t) : c.Only t.Allows :=
  leaves.effects

theorem Card.Leaves.token (t : Traces) (stats : Option Stats) (kinds : List KindWord)
    (subtypes : List CardSubtype) : (Card.token stats kinds subtypes).Leaves t :=
  ⟨Card.Only.token stats kinds subtypes, fun mem => (nomatch mem)⟩

theorem CardInstance.Tidy.fresh (t : Traces) (c : CardId) (template : Card) (owner : PlayerId)
    (z : Zone) : (CardInstance.fresh c template owner z).Tidy t :=
  ⟨rfl, rfl, fun some => absurd rfl some, nofun⟩

theorem CardInstance.Tidy.leaveBoard (t : Traces) (i : CardInstance) (p : PlayerId) :
    { i.leaveBoard with controller := p }.Tidy t :=
  ⟨rfl, rfl, fun some => absurd rfl some, nofun⟩

namespace Neat

variable {t : Traces} {moving later : Option CardId} {g h : Game} {c : CardId}

theorem of_eq (neat : Neat t moving g) (cards : h.cards = g.cards)
    (entries : h.stack.entries = g.stack.entries) : Neat t moving h := by
  have records : h.card? = g.card? := funext fun c => by rw [Game.card?, Game.card?, cards]
  exact ⟨records ▸ neat.templates, records ▸ neat.tidy, entries ▸ neat.uses⟩

theorem blind (t : Traces) (moving : Option CardId) : BlindToTalk (Neat t moving) :=
  fun _ _ _ neat => neat.of_eq rfl rfl

theorem modifyCard (neat : Neat t moving g) {f : CardInstance → CardInstance}
    (template : ∀ i, (f i).card = i.card) (others : ∀ d, d ≠ c → later ≠ some d → moving ≠ some d)
    (tidy : ∀ i, g.card? c = some i → later ≠ some c → (f i).zone ≠ .board → (f i).Tidy t) :
    Neat t later (g.modifyCard c f) := by
  have record : ∀ {d i}, (g.modifyCard c f).card? d = some i →
      (d = c ∧ ∃ j, g.card? c = some j ∧ f j = i) ∨ d ≠ c ∧ g.card? d = some i := by
    intro d i found
    by_cases same : d = c
    · subst same
      rw [Game.card?_modifyCard_self] at found
      exact .inl ⟨rfl, Option.map_eq_some_iff.1 found⟩
    · rw [Game.card?_modifyCard_of_ne _ (Ne.symm same)] at found
      exact .inr ⟨same, found⟩
  refine ⟨fun d i found => ?_, fun d i found settled off => ?_, neat.uses⟩
  · rcases record found with ⟨-, j, known, rfl⟩ | ⟨-, known⟩
    · exact template j ▸ neat.templates c j known
    · exact neat.templates d i known
  · rcases record found with ⟨rfl, j, known, rfl⟩ | ⟨other, known⟩
    · exact tidy j known settled off
    · exact neat.tidy d i known (others d other settled) off

theorem mark (neat : Neat t moving g) {f : CardInstance → CardInstance} (marks : Marks f)
    (tidy : ∀ i, g.card? c = some i → i.zone ≠ .board → i.Tidy t → (f i).Tidy t) :
    Neat t moving (g.modifyCard c f) := by
  refine neat.modifyCard (fun i => by rw [marks i])
    (fun _ _ settled => settled) fun i found settled off => ?_
  have zone : (f i).zone = i.zone := by rw [marks i]
  exact tidy i found (zone ▸ off) (neat.tidy c i found settled (zone ▸ off))

theorem push (neat : Neat t moving g) {u : AbilityUse}
    (allowed : ∀ e ∈ u.effects, t.Allows e.effect) :
    Neat t moving (g.modifyStack (·.push u)) := by
  refine ⟨neat.templates, neat.tidy, fun v mem => ?_⟩
  rcases List.mem_append.1 mem with before | new
  · exact neat.uses v before
  · exact List.mem_singleton.1 new ▸ allowed

theorem pop (neat : Neat t moving g) : Neat t moving (g.modifyStack (·.pop.2)) :=
  ⟨neat.templates, neat.tidy, fun v mem => neat.uses v (List.dropLast_subset _ mem)⟩

theorem addCard (neat : Neat t moving g) (owner : PlayerId) {template : Card}
    (leaves : template.Leaves t)
    (z : Zone) : Neat t moving (StateT.run (Step.addCard owner template z) g).2 := by
  refine ⟨fun d i found => ?_, fun d i found settled off => ?_, neat.uses⟩
  · rcases Step.card?_addCard found with known | rfl
    · exact neat.templates d i known
    · exact leaves
  · rcases Step.card?_addCard found with known | rfl
    · exact neat.tidy d i known settled off
    · exact CardInstance.Tidy.fresh t _ template owner z

end Neat

namespace Step

variable {t : Traces} {moving : Option CardId}

theorem keeps_playUse_neat {announce : Announce}
    (targets : ∀ o, Keeps (Neat t moving) (announce .target o))
    {u : AbilityUse} (allowed : ∀ e ∈ u.effects, t.Allows e.effect) :
    Keeps (Neat t moving) (playUse announce u) := by
  intro g neat
  have picked := keeps_pickUse (Neat.blind t moving) targets u g neat
  exact picked.push (KeptByDeeds.allowed_of_aimed (pickUse_aimed announce u g) allowed)

theorem keptByFiring_neat (t : Traces) (moving : Option CardId) :
    KeptByFiring (fun u => ∀ e ∈ u.effects, t.Allows e.effect) (Neat t moving) :=
  .of_blind (Neat.blind t moving) (fun _ _ neat => neat.of_eq rfl rfl)
    (fun {g c i a u} neat found listed fired => by
      obtain ⟨v, empty, aimed⟩ := fired.effects
      refine KeptByDeeds.allowed_of_aimed aimed
        (AbilityUse.allowed_prepareClauses (fun e mem => ?_) ?_)
      · rw [empty] at mem
        exact nomatch mem
      · exact (neat.templates c i found).only.ofTriggered listed)
    (fun _ neat => neat.of_eq rfl rfl) (fun _ _ neat allowed => neat.push allowed)

theorem keeps_emit_neat (kind : EventKind) (subject : ObjectRef) :
    Keeps (Neat t moving) (emit kind subject) :=
  (keptByFiring_neat t moving).keeps_emit (fun _ neat => neat.of_eq rfl rfl)
    fun _ neat => neat.of_eq rfl rfl

end Step

/-- A card between two zones: it is as if nothing had happened to it, unless a board awaits it. -/
structure Carried (t : Traces) (c : CardId) (goal : Zone) (g : Game) : Prop where
  rest : Neat t (some c) g
  tidy : goal ≠ .board → ∀ i, g.card? c = some i → i.Tidy t

/-- Cards are where their records say, and the game is neat. -/
def Orderly (t : Traces) (g : Game) : Prop :=
  ZonesAgree g ∧ Neat t none g

theorem Game.OnBoard.mark {g : Game} {c : CardId} (on : g.OnBoard c)
    {f : CardInstance → CardInstance}
    (marks : Marks f) (d : CardId) : (g.modifyCard d f).OnBoard c := by
  rcases on with ⟨i, found, zone⟩ | held
  · by_cases same : d = c
    · subst same
      refine .inl ⟨f i, ?_, ?_⟩
      · rw [Game.card?_modifyCard_self, found]
        rfl
      · rw [marks i]
        exact zone
    · refine .inl ⟨i, ?_, zone⟩
      rw [Game.card?_modifyCard_of_ne _ same]
      exact found
  · exact .inr held

theorem ZonesAgree.zone_of_onBoard {g : Game} (agree : ZonesAgree g) {c : CardId} (on : g.OnBoard c)
    {i : CardInstance} (found : g.card? c = some i) : i.zone = .board := by
  have recorded : ∃ j, g.card? c = some j ∧ j.zone = .board :=
    on.elim (fun known => known) (agree.holds_iff (z := .board) nofun c).1
  obtain ⟨j, known, zone⟩ := recorded
  exact Option.some.inj (known.symm.trans found) ▸ zone

namespace Act

variable {t : Traces} {moving : Option CardId} {c : CardId} {i : CardInstance} {goal : Zone}
  {F : EngineError → Game → Prop}

theorem keeps_emit_neat (kind : EventKind) (subject : ObjectRef) :
    Keeps (Neat t moving) (liftM (Step.emit kind subject) : Act Unit) :=
  keeps_lift (Step.keeps_emit_neat kind subject)

theorem leads_takeOut_carried :
    Leads (fun g => Neat t none g ∧ g.card? c = some i) (takeOut c i) (fun _ => Carried t c goal)
      (Neat t none) := by
  unfold takeOut
  split
  · have emitted : Leads (fun g => Neat t none g ∧ g.card? c = some i)
        (liftM (Step.emit .leaveBoard (.card c)) : Act Unit) (fun _ => Neat t none) (Neat t none) :=
      fun g start => (keeps_emit_neat .leaveBoard (.card c)).leads g start.1
    refine emitted.bind fun _ => (keeps_card c).leads.bind fun j => leads_modifyThe fun g neat => ?_
    refine ⟨?_, fun _ k found => ?_⟩
    · exact Neat.modifyCard (g := g.modifyPlayer _ _) (neat.of_eq rfl rfl) (fun _ => rfl) nofun
        fun _ _ moves => absurd rfl moves
    · rw [Game.card?_modifyCard_self] at found
      obtain ⟨l, -, rfl⟩ := Option.map_eq_some_iff.1 found
      exact .leaveBoard t l l.owner
  · next off =>
    refine leads_modifyThe fun g start => ⟨?_, fun _ k found => ?_⟩
    · exact ⟨start.1.templates, fun d j found _ => start.1.tidy d j found nofun, start.1.uses⟩
    · obtain rfl := Option.some.inj (start.2.symm.trans found)
      exact start.1.tidy c i found nofun off

theorem ends_putInto_carried (position : Position) (slot : Option Nat) :
    Ends (Carried t c goal) (putInto c i goal position slot) (fun _ => Neat t none) F := by
  have recorded : Ends (Carried t c goal)
    (modifyThe Game (·.modifyCard c fun i => { i with zone := goal }))
      (fun _ => Neat t none) F := by
    refine ends_modifyThe fun g carried => carried.rest.modifyCard (fun _ => rfl) ?_ ?_
    · exact fun d other _ same => other (Option.some.inj same).symm
    · intro j found _ off
      have tidy := carried.tidy off j found
      exact ⟨tidy.damage, tidy.flipped, tidy.modifiers, tidy.activated⟩
  unfold putInto
  cases slot with
  | none =>
    refine Ends.bind (Q := fun _ => Carried t c goal) ?_ fun _ => recorded
    exact ends_modifyThe fun g carried => ⟨carried.rest.of_eq rfl rfl, carried.tidy⟩
  | some k =>
    refine Ends.bind (Q := fun _ => Carried t c goal) ?_ fun _ => recorded
    refine ends_modifyThe fun g carried => ⟨?_, fun off j found => ?_⟩
    · exact Neat.modifyCard (g := g.modifyPlayer _ _) (carried.rest.of_eq rfl rfl) (fun _ => rfl)
        (fun _ _ settled => settled) fun _ _ moves => absurd rfl moves
    · rw [Game.card?_modifyCard_self] at found
      obtain ⟨l, known, rfl⟩ := Option.map_eq_some_iff.1 found
      have tidy := carried.tidy off l known
      exact ⟨tidy.damage, tidy.flipped, tidy.modifiers, tidy.activated⟩

theorem keeps_moveCard_neat (c : CardId) (goal : Zone) (position : Position) :
    Keeps (Neat t none) (moveCard c goal position) := by
  have found : Leads (Neat t none) (card c) (fun i g => Neat t none g ∧ g.card? c = some i)
      (Neat t none) :=
    leads_card (fun g i neat found => ⟨neat, found⟩) fun _ neat => neat
  refine (found.bind fun i => ?_).keeps
  refine Leads.bind (Q := fun _ g => Neat t none g ∧ g.card? c = some i) ?_ fun slot => ?_
  · exact (keeps_slotFor c i goal position).leads.weaken (fun _ _ kept => kept) fun _ kept => kept.1
  · refine leads_takeOut_carried.bind fun _ =>
      (ends_putInto_carried position slot).leads.bind fun _ => ?_
    split
    · exact (keeps_emit_neat _ _).leads
    · exact leads_pure fun _ neat => neat

theorem keeps_createCard_neat (owner : PlayerId) {template : Card} (leaves : template.Leaves t)
    (z : Zone) :
    Keeps (Neat t none) (createCard owner template z) :=
  keeps_createCard_of (fun _ neat => neat.addCard owner leaves .stack) fun c =>
    keeps_moveCard_neat c z .bottom

end Act

namespace Orderly

variable {t : Traces} {g h : Game} {c : CardId} {i : CardInstance}

theorem of_frame (orderly : Orderly t g) (players : h.players = g.players)
    (cards : h.cards = g.cards) (entries : h.stack.entries = g.stack.entries) : Orderly t h :=
  ⟨orderly.1.of_frame players cards, orderly.2.of_eq cards entries⟩

theorem mark (orderly : Orderly t g) {f : CardInstance → CardInstance} (marks : Marks f)
    (tidy : ∀ i, g.card? c = some i → i.zone ≠ .board → i.Tidy t → (f i).Tidy t) :
    Orderly t (g.modifyCard c f) :=
  ⟨keptByChanges_zonesAgree.mark marks g c orderly.1, orderly.2.mark marks tidy⟩

theorem markOnBoard (orderly : Orderly t g) (on : g.OnBoard c) {f : CardInstance → CardInstance}
    (marks : Marks f) : Orderly t (g.modifyCard c f) :=
  orderly.mark marks fun _ found off => absurd (orderly.1.zone_of_onBoard on found) off

theorem activate (orderly : Orderly t g) (may : t.activation) (c : CardId) :
    Orderly t (g.modifyCard c fun i => { i with activated := true }) :=
  orderly.mark (fun _ => rfl) fun _ _ _ tidy =>
    ⟨tidy.damage, tidy.flipped, tidy.modifiers, fun _ => may⟩

theorem deactivate (orderly : Orderly t g) (c : CardId) :
    Orderly t (g.modifyCard c fun i => { i with activated := false }) :=
  orderly.mark (fun _ => rfl) fun _ _ _ tidy => ⟨tidy.damage, tidy.flipped, tidy.modifiers, nofun⟩

theorem emit (kind : EventKind) (subject : ObjectRef) :
    Step.Keeps (Orderly t) (Step.emit kind subject) := fun g orderly =>
  ⟨Act.keeps_emit_zonesAgree kind subject g orderly.1,
    Step.keeps_emit_neat kind subject g orderly.2⟩

theorem keptByDeeds (t : Traces) : KeptByDeeds t.Allows (Orderly t) where
  talk _ _ _ orderly := orderly.of_frame rfl rfl rfl
  emit := emit
  move c goal position g orderly :=
    ⟨Act.keeps_moveCard_zonesAgree c goal position g orderly.1,
      Act.keeps_moveCard_neat c goal position g orderly.2⟩
  spawn _ owner g orderly :=
    ⟨Act.keeps_createCard_zonesAgree owner _ .board g orderly.1,
      Act.keeps_createCard_neat owner (.token t _ _ _) .board g orderly.2⟩
  damage _ _ _ orderly on := orderly.markOnBoard on fun _ => rfl
  bonus allowed _ _ orderly := orderly.mark (fun _ => rfl) fun _ _ _ tidy =>
    ⟨tidy.damage, tidy.flipped, fun _ => allowed.bonus rfl, tidy.activated⟩
  activate allowed _ c orderly := orderly.activate (allowed.activation rfl) c
  deactivate _ c orderly := orderly.deactivate c
  account keeps g p orderly :=
    ⟨keptByChanges_zonesAgree.account keeps g p orderly.1, orderly.2.of_eq rfl rfl⟩
  shuffle p z g orderly := by
    refine ⟨keeps_shuffleZone_zonesAgree p z g orderly.1, ?_⟩
    refine Step.keeps_modify (fun g neat => ?_) g orderly.2
    split
    · exact neat
    · exact neat.of_eq rfl rfl
  random _ _ orderly := orderly.of_frame rfl rfl rfl
  resolving _ _ orderly := orderly.of_frame rfl rfl rfl

end Orderly

namespace Act

variable {t : Traces} {g : Game} {c : CardId} {F : EngineError → Game → Prop}

theorem keeps_pay_orderly {costs : List CostSymbol} (may : .activate ∈ costs → t.activation)
    (x : Amount) :
    Keeps (Orderly t) (pay c costs x) :=
  keeps_pay_of Orderly.emit (Orderly.keptByDeeds t).account
    (fun mem _ orderly => orderly.activate (may mem) c) (fun _ _ orderly => orderly.deactivate c) x

theorem keeps_pay_onBoard (costs : List CostSymbol) (x : Amount) :
    Keeps (fun g => Orderly t g ∧ g.OnBoard c) (pay c costs x) := by
  refine keeps_pay_of (fun kind subject g start => ?_) (fun {f} keeps g p start => ?_)
    (fun _ g start => ?_) (fun _ g start => ?_) x
  · exact ⟨Orderly.emit kind subject g start.1, Step.keeps_emit_onBoard c kind subject g start.2⟩
  · refine ⟨(Orderly.keptByDeeds t).account keeps g p start.1, ?_⟩
    rcases start.2 with known | ⟨q, held⟩
    · exact .inl known
    · refine .inr ⟨q, ?_⟩
      obtain same | ⟨-, changed⟩ := g.player_modifyPlayer p q f
      · rw [same]
        exact held
      · rw [changed, keeps.frame (g.player q)]
        exact held
  · exact ⟨start.1.markOnBoard start.2 fun _ => rfl, start.2.mark (fun _ => rfl) c⟩
  · exact ⟨start.1.deactivate c, start.2.mark (fun _ => rfl) c⟩

theorem keeps_playUse_orderly {u : AbilityUse} (allowed : ∀ e ∈ u.effects, t.Allows e.effect) :
    Step.Keeps (Orderly t) (Step.playUse Step.emit u) := fun g orderly =>
  ⟨keptByChanges_zonesAgree.keeps_playUse (fun _ _ agree => agree.of_frame rfl rfl) u g orderly.1,
    Step.keeps_playUse_neat (Step.keeps_emit_neat .target) allowed g orderly.2⟩

theorem keeps_castFor_orderly {i : CardInstance} (leaves : i.card.Leaves t) (p : PlayerId)
    (field : Option Nat) (x : Amount) : Keeps (Orderly t) (castFor p c i field x) :=
  (keeps_pay_orderly leaves.cost x).bind fun _ =>
    (keeps_lift (Step.keeps_nextUseId fun _ orderly => orderly.of_frame rfl rfl rfl)).bind fun _ =>
    ((Orderly.keptByDeeds t).move _ _ _).bind fun _ =>
    keeps_lift (keeps_playUse_orderly
      (AbilityUse.allowed_prepareClauses (fun _ mem => nomatch mem) leaves.only.ofCast))

theorem leads_activateFor_orderly {a : Activated}
    (allowed : ∀ clause ∈ a.effectCosts ++ a.effect.effects, ∀ e ∈ clause.singles, t.Allows e)
    (p : PlayerId) (x : Amount) :
    Leads (fun g => Orderly t g ∧ g.OnBoard c) (activateFor p c a x) (fun _ => Orderly t)
      (Orderly t) := by
  have k := Orderly.keptByDeeds t
  have paid : Leads (fun g => Orderly t g ∧ g.OnBoard c) (pay c a.resourceCosts x)
    (fun _ => Orderly t)
      (Orderly t) :=
    (keeps_pay_onBoard a.resourceCosts x).leads.weaken (fun _ _ kept => kept.1) fun _ kept => kept.1
  refine paid.bind fun _ => Keeps.leads ?_
  refine (keeps_lift (Step.keeps_nextUseId fun _ orderly => orderly.of_frame rfl rfl rfl)).bind
    fun id => ?_
  have costs : ∀ e ∈ (AbilityUse.paying id p c a x).effects, t.Allows e.effect :=
    AbilityUse.allowed_prepareClauses (fun _ mem => nomatch mem) fun clause mem =>
      allowed clause (List.mem_append_left _ mem)
  refine (((k.keeps_payActions costs).leads_of (payActions_effects _)).bind fun v g start =>
    ?_).keeps
  have effects : ∀ e ∈ (v.prepare a.effect).effects, t.Allows e.effect :=
    AbilityUse.allowed_prepareClauses (fun e mem =>
      nomatch (start.2 ▸ mem : e ∈ [])) fun clause mem =>
      allowed clause (List.mem_append_right _ mem)
  have used : Keeps (Orderly t) (if a.isCost then do
      resolveUse (← Step.pickUse Step.emit (v.prepare a.effect))
      modifyThe Game (·.modifyStack (·.acted))
    else Step.playUse Step.emit (v.prepare a.effect) : Act Unit) := by
    split
    · exact k.keeps_pickUse_bind effects fun u allowed => (k.keeps_resolveUse allowed).bind fun _ =>
        keeps_modifyThe fun _ orderly => orderly.of_frame rfl rfl rfl
    · exact keeps_lift (keeps_playUse_orderly effects)
  exact used.leads g start.1

theorem keeps_cast_orderly (p : PlayerId) (c : CardId) (field : Option Nat) :
    Keeps (Orderly t) (cast p c field) := by
  have blind := (Orderly.keptByDeeds t).talk
  refine keeps_cast_of (fun talks => talks.keep blind) (fun g i slot x orderly found _ => ?_) field
  exact (keeps_castFor_orderly (orderly.2.templates c i found) p slot x).leads.ends.starting
    fun _ talks => talks.keep blind orderly

theorem keeps_activate_orderly (p : PlayerId) (c : CardId) (index : Nat) :
    Keeps (Orderly t) (activate p c index) := by
  have blind := (Orderly.keptByDeeds t).talk
  refine keeps_activate_of (fun talks => talks.keep blind)
    (fun g i a x orderly found boarded listed _ => ?_) index
  have allowed := (orderly.2.templates c i found).only.ofActivated t.allowsRules listed
  refine (leads_activateFor_orderly allowed p x).ends.starting fun h talks =>
    ⟨talks.keep blind orderly, ?_⟩
  exact .inl ⟨i, (talks.sameTable.card? c).trans found, boarded⟩

theorem ends_moveCard_entering {i : CardInstance} (off : i.zone ≠ .board) (position : Position) :
    Ends (fun g => Neat t (some c) g ∧ g.card? c = some i) (moveCard c .board position)
      (fun _ => Neat t none) fun _ _ => True := by
  have known : Ends (fun g => Neat t (some c) g ∧ g.card? c = some i) (card c)
      (fun j g => j = i ∧ Neat t (some c) g) fun _ _ => True :=
    (ends_readCard fun _ start => start.2).after fun _ _ start => ⟨start.1, start.2.1⟩
  refine known.bind fun j => .given fun same => ?_
  subst same
  refine Ends.bind ((keeps_slotFor c j .board position).leads.ends.failing fun _ _ _ =>
    trivial) fun slot => ?_
  refine Ends.bind (Q := fun _ => Carried t c .board) ?_ fun _ => ?_
  · unfold takeOut
    rw [if_neg off]
    exact ends_modifyThe fun g neat => ⟨neat.of_eq rfl rfl, fun elsewhere => absurd rfl elsewhere⟩
  · exact (ends_putInto_carried position slot).bind fun _ =>
      (keeps_emit_neat _ _).leads.ends.failing fun _ _ _ => trivial

theorem keeps_playSource_orderly (p : PlayerId) (c : CardId) :
    Keeps (Orderly t) (playSource p c) := by
  intro g orderly
  refine ⟨keptByPlay_zonesAgree.moves.playSource p c g orderly.1, ?_⟩
  have entered : Ends (fun h => h = g) (playSource p c) (fun _ => Neat t none) fun _ _ => True := by
    refine ends_playSource_of (fun _ _ _ => trivial) fun i found held _ => ?_
    let turned : CardInstance → CardInstance := fun i =>
      { i with flipped := !i.card.hasKind .source, activated := true }
    have changed : Ends (fun h => h = g) (changeCard c turned)
        (fun _ h => Neat t (some c) h ∧ h.card? c = some (turned i)) fun _ _ => True := by
      refine (ends_readCard fun h same => same ▸ found).bind fun _ =>
        ends_modifyThe fun h start => ?_
      obtain ⟨-, rfl⟩ := start
      refine ⟨orderly.2.modifyCard (fun _ => rfl) nofun fun _ _ moves => absurd rfl moves, ?_⟩
      rw [Game.card?_modifyCard_self, found]
      rfl
    have off : (turned i).zone ≠ .board := fun board => nomatch held.1.symm.trans board
    refine changed.bind fun _ => (ends_moveCard_entering off .top).bind fun _ => ?_
    refine (ends_modifyThe (Q := fun _ => Neat t none) fun _ neat =>
      neat.of_eq rfl rfl).bind fun _ => ?_
    refine (ends_modifyThe (Q := fun _ => Neat t none) fun _ neat =>
      neat.of_eq rfl rfl).bind fun _ => ?_
    exact (keeps_emit_neat _ _).leads.ends.failing fun _ _ _ => trivial
  cases ran : StateT.run (ExceptT.run (playSource p c)) g with
  | mk result h =>
    cases result with
    | ok _ => exact entered.success rfl ran
    | error e =>
      exact ((ends_playSource orderly.1 p c).failure rfl ran).talks.keep (Neat.blind t none)
        orderly.2

theorem keeps_beginTurn_orderly (p : PlayerId) : Keeps (Orderly t) (beginTurn p) := by
  have k := Orderly.keptByDeeds t
  have activated : ∀ cards : List CardId,
      Leads (fun g => Orderly t g ∧ ∀ c ∈ cards, g.OnBoard c)
        (cards.forM fun c => changeCard c fun i => { i with activated := true })
          (fun _ => Orderly t)
        (Orderly t) := by
    intro cards
    refine Ends.after (Ends.forM fun c mem => ?_) fun _ _ kept => kept.1
    refine Ends.bind (Q := fun _ g => Orderly t g ∧ ∀ c ∈ cards, g.OnBoard c) ?_ fun _ => ?_
    · exact (keeps_card c).leads.ends.failing fun _ _ kept => kept.1
    · exact ends_modifyThe fun g start => ⟨start.1.markOnBoard (start.2 c mem) fun _ => rfl,
        fun d listed => (start.2 d listed).mark (fun _ => rfl) c⟩
  have read : Leads (Orderly t) (getThe Game) (fun known g => known = g ∧ Orderly t g)
      (Orderly t) :=
    leads_getThe fun g orderly => ⟨rfl, orderly⟩
  refine (k.keeps_account Stores.noEssence.accounts p).bind fun _ =>
    (read.bind fun known g start => ?_).keeps
  obtain ⟨rfl, orderly⟩ := start
  refine ((activated _).bind fun _ => Keeps.leads ?_) known ⟨orderly, fun c mem => .inr ⟨p, mem⟩⟩
  exact keeps_modifyThe fun _ orderly => orderly.of_frame rfl rfl rfl

end Act

theorem Orderly.keptByCourse (t : Traces) : KeptByCourse (Orderly t) where
  saying := (keptByDeeds t).saying
  announce := (keptByDeeds t).announce
  cast := Act.keeps_cast_orderly
  activate := Act.keeps_activate_orderly
  playSource := Act.keeps_playSource_orderly
  draw := (keptByDeeds t).keeps_draw
  beginTurn := Act.keeps_beginTurn_orderly
  priority entries _ orderly := orderly.of_frame rfl rfl (entries _)
  turn _ _ orderly := orderly.of_frame rfl rfl rfl
  resolveTop := Act.keeps_resolveTop_of
    (fun _ u orderly mem => (keptByDeeds t).keeps_resolveUse (orderly.2.uses u mem))
    fun _ orderly => ⟨orderly.1.of_frame rfl rfl, orderly.2.pop⟩
  store := (keptByDeeds t).store
  startLife g orderly :=
    ⟨keptByPlay_zonesAgree.accounts (.ofLife _) g orderly.1, orderly.2.of_eq rfl rfl⟩
  random := (keptByDeeds t).random

theorem neat_create {t : Traces} {config : RulesConfig} {entrants : List Entrant} {g : Game}
    (created : Game.create config entrants = .ok g)
    (leaves : ∀ e ∈ entrants, ∀ card ∈ e.deck, card.Leaves t) : Neat t none g := by
  refine Game.create_induction created (fun seats => ?_) fun g owner template _ mem neat => ?_
  · exact ⟨fun c i found => (nomatch found), fun c i found => (nomatch found),
      fun u mem => (nomatch mem)⟩
  · obtain ⟨e, seat, listed⟩ := mem
    exact (neat.addCard owner (leaves e seat template listed) .deck).of_eq rfl rfl

/-- In the course of a game a card off the board has no damage, no slot, and is not flipped. It
bears bonuses only when some card of the decks has an effect that gives them, and is activated only
when some card of the decks has an effect that activates cards or is activated to pay for it. -/
theorem traces_offBoard {config : RulesConfig} {entrants : List Entrant} {start g : Game}
    (created : Game.create config entrants = .ok start)
    (course : ReachedFrom start (fun op => op.plays) g) {c : CardId} {i : CardInstance}
    (found : g.card? c = some i) (off : i.zone ≠ .board) :
    i.damage = 0 ∧ i.flipped = false ∧ i.slot = none ∧
      (i.modifiers ≠ [] → ∃ e ∈ entrants, ∃ card ∈ e.deck, card.givesBonus) ∧
      (i.activated → ∃ e ∈ entrants, ∃ card ∈ e.deck, card.activatesCards) := by
  let t : Traces := ⟨∃ e ∈ entrants, ∃ card ∈ e.deck, card.givesBonus,
    ∃ e ∈ entrants, ∃ card ∈ e.deck, card.activatesCards⟩
  have leaves : ∀ e ∈ entrants, ∀ card ∈ e.deck, card.Leaves t := by
    refine fun e seat card mem => ⟨fun effect listed => ⟨fun gives => ?_, fun activates => ?_⟩,
      fun cost => ?_⟩
    · exact ⟨e, seat, card, mem, List.any_eq_true.2 ⟨effect, listed, gives⟩⟩
    · refine ⟨e, seat, card, mem, Bool.or_eq_true_iff.2 (.inr ?_)⟩
      exact List.any_eq_true.2 ⟨effect, listed, activates⟩
    · exact ⟨e, seat, card, mem, Bool.or_eq_true_iff.2 (.inl (List.contains_iff_mem.2 cost))⟩
  have orderly : Orderly t g := (Orderly.keptByCourse t).reachedFrom
    ⟨zonesAgree_create created, neat_create created leaves⟩ course
  have tidy := orderly.2.tidy c i found nofun off
  have unslotted := mt ((orderly.1 c).housed i found).slotted.1 off
  exact ⟨tidy.damage, tidy.flipped, by simpa using unslotted, tidy.modifiers, tidy.activated⟩

def Card.growth : Card :=
  ((blank "Growth").withKind ⟨.spell, false⟩).withAbility (.composed ⟨[.card
    (some [.filter ⟨some .target, [.kind ⟨.unit, false⟩], none, none, []⟩])
    [.gets .plus (.number 2) .plus (.number 2)]]⟩)

def Card.doom : Card :=
  (((blank "Doom").withKind ⟨.spell, false⟩).withAbility (.keyword .ambush)).withAbility (.composed
    ⟨[.player none false
      [.destroy [.filter ⟨some .target, [.kind ⟨.unit, false⟩], none, none, []⟩]]]⟩)

/-- A unit that is destroyed in response to a bonus gets the bonus on the pile. -/
theorem traces_offBoard_growth :
    ∃ start, Game.create
      {} [⟨[(Card.blank "Squire").withKind ⟨.unit, false⟩, .growth, .doom], .first⟩,
        ⟨[], .pass⟩] = .ok start ∧
      let g := Operation.performAll start [.enterPhase .draw, .enterPhase .draw, .enterPhase .draw,
        .enterPhase .play, .cast ⟨0⟩ ⟨0⟩ none, .resolveTop, .cast ⟨0⟩ ⟨1⟩ none, .cast ⟨0⟩ ⟨2⟩ none,
        .resolveTop, .resolveTop]
      ∃ i, g.card? ⟨0⟩ = some i ∧ i.zone = .pile ∧ i.modifiers = [⟨2, 2⟩] ∧ Card.growth.givesBonus ∧
        i.damage = 0 ∧ i.flipped = false ∧ i.slot = none ∧ ¬ i.activated := by
  refine ⟨_, rfl, ?_⟩
  intro g
  have onPile : (g.card? ⟨0⟩).any fun i => i.zone == .pile && i.modifiers == [⟨2, 2⟩] := by
    decide +kernel
  obtain ⟨i, found, there⟩ := (Option.any_eq_true _ _).1 onPile
  obtain ⟨zone, bonus⟩ := Bool.and_eq_true_iff.1 there
  replace zone : i.zone = .pile := eq_of_beq zone
  have created : Game.create
    {} [⟨[(Card.blank "Squire").withKind ⟨.unit, false⟩, .growth, .doom], .first⟩, ⟨[], .pass⟩] =
      .ok _ := rfl
  obtain ⟨damage, flipped, slot, -, activated⟩ := traces_offBoard created
    (.performAll .start _ (by decide)) found (zone ▸ nofun)
  exact ⟨i, found, zone, eq_of_beq bonus, by decide, damage, flipped, slot,
    mt activated (by decide)⟩

end CardGame
