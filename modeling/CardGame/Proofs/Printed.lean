import CardGame.Proofs.Essence
import CardGame.Proofs.Offers

/-!
Where effects come from. Whatever a use does is printed on a card of the game, an attack and the
giving of essence apart, and tokens have nothing printed on them. So when the cards of the decks
have only effects of some sort, so has every use that ever waits, and its value of x is zero or was
chosen among values that are not negative.
-/

namespace CardGame

def Effect.singles : Effect → List SingleEffect
  | .player _ _ effects => effects.map .player
  | .card _ effects => effects.map .card

def Ability.clauses : Ability → List Effect
  | .keyword _ => []
  | .composed c => c.effects
  | .activated a => a.effectCosts ++ a.effect.effects
  | .triggered t => t.effect.effects

def Card.effects (c : Card) : List SingleEffect :=
  c.abilities.flatMap fun a => a.clauses.flatMap Effect.singles

/-- A card whose effects are all of some sort. -/
def Card.Only (may : SingleEffect → Prop) (c : Card) : Prop :=
  ∀ e ∈ c.effects, may e

structure AbilityUse.Only (may : SingleEffect → Prop) (u : AbilityUse) : Prop where
  positive : 0 ≤ u.x
  effects : ∀ e ∈ u.effects, may e.effect

/-- A sort of effects to which an attack and the giving of essence belong. -/
structure AllowsRules (may : SingleEffect → Prop) : Prop where
  attack : may (.card .attack)
  give : ∀ essence, may (.player (.add essence))

/-- A game whose cards and waiting uses have only effects of some sort. -/
structure Prints (may : SingleEffect → Prop) (g : Game) : Prop where
  templates : ∀ c i, g.card? c = some i → i.card.Only may
  uses : ∀ u ∈ g.stack.entries, u.Only may

variable {may : SingleEffect → Prop}

theorem Effect.effect_mem_singles {group : Nat} {clause : Effect} {e : PlannedEffect}
    (mem : e ∈ PlannedEffect.ofClause group clause) : e.effect ∈ clause.singles := by
  cases clause <;>
  · obtain ⟨effect, listed, rfl⟩ := List.mem_map.1 mem
    exact List.mem_map_of_mem listed

theorem AbilityUse.allowed_prepareClauses {u : AbilityUse} {clauses : List Effect}
    (before : ∀ e ∈ u.effects, may e.effect)
    (later : ∀ clause ∈ clauses, ∀ e ∈ clause.singles, may e) :
    ∀ e ∈ (u.prepareClauses clauses).effects, may e.effect := by
  intro e mem
  rcases mem_prepareClauses mem with listed | ⟨clause, listed, group, new⟩
  · exact before e listed
  · exact later clause listed _ (Effect.effect_mem_singles new)

namespace Card.Only

variable {c : Card} {i : CardInstance}

theorem ofAbility (only : c.Only may) {a : Ability} (listed : a ∈ c.abilities) :
    ∀ clause ∈ a.clauses, ∀ e ∈ clause.singles, may e :=
  fun clause mem e single => only e (List.mem_flatMap.2
    ⟨a, listed, List.mem_flatMap.2 ⟨clause, mem, single⟩⟩)

theorem ofTriggered (only : c.Only may) {a : Triggered} (listed : a ∈ c.triggered) :
    ∀ clause ∈ a.effect.effects, ∀ e ∈ clause.singles, may e := by
  obtain ⟨ability, mem, same⟩ := List.mem_filterMap.1 listed
  cases ability with
  | triggered b =>
    obtain rfl := Option.some.inj same
    exact only.ofAbility mem
  | _ => exact nomatch same

theorem ofCast (only : i.card.Only may) :
    ∀ clause ∈ Act.castClauses i, ∀ e ∈ clause.singles, may e := by
  intro clause mem
  unfold Act.castClauses at mem
  split at mem
  · exact nomatch mem
  · obtain ⟨ability, listed, mem⟩ := List.mem_flatMap.1 mem
    cases ability with
    | composed b => exact only.ofAbility listed clause mem
    | _ => exact nomatch mem

theorem ofActivated (rules : AllowsRules may) (only : i.card.Only may) {a : Activated}
    (listed : a ∈ i.activatedAbilities) :
    ∀ clause ∈ a.effectCosts ++ a.effect.effects, ∀ e ∈ clause.singles, may e := by
  rw [CardInstance.activatedAbilities, List.mem_append, List.mem_append] at listed
  rcases listed with (printed | attack) | giving
  · split at printed
    · exact nomatch printed
    · obtain ⟨ability, mem, same⟩ := List.mem_filterMap.1 printed
      cases ability with
      | activated b =>
        obtain rfl := Option.some.inj same
        exact only.ofAbility mem
      | _ => exact nomatch same
  · split at attack
    · obtain rfl := List.mem_singleton.1 attack
      intro clause mem e single
      obtain rfl := List.mem_singleton.1 mem
      obtain rfl := List.mem_singleton.1 single
      exact rules.attack
    · exact nomatch attack
  · split at giving
    · obtain ⟨color, -, rfl⟩ := List.mem_map.1 giving
      intro clause mem e single
      obtain rfl := List.mem_singleton.1 mem
      obtain rfl := List.mem_singleton.1 single
      exact rules.give _
    · exact nomatch giving

theorem token (stats : Option Stats) (kinds : List KindWord) (subtypes : List CardSubtype) :
    (Card.token stats kinds subtypes).Only may :=
  fun _ mem => nomatch mem

end Card.Only

theorem AbilityUse.Only.aimed {u v : AbilityUse} (only : u.Only may) (becomes : u.Becomes v)
    (aimed : List.Forall₂ PlannedEffect.Aimed u.effects v.effects) : v.Only may :=
  ⟨becomes.x_eq ▸ only.positive, KeptByDeeds.allowed_of_aimed aimed only.effects⟩

theorem AbilityUse.Only.allowed {u : AbilityUse} (only : u.Only may) :
    ∀ e ∈ u.effects, 0 ≤ u.x ∧ may e.effect :=
  fun e mem => ⟨only.positive, only.effects e mem⟩

theorem Act.payActions_effects (u : AbilityUse) : Gives (payActions u) fun v => v.effects = [] := by
  unfold payActions
  split
  · next none => exact gives_pure (List.isEmpty_iff.1 none)
  · exact Gives.bind fun _ => Gives.bind fun _ => gives_pure rfl

namespace Prints

variable {g h : Game} {c : CardId}

theorem of_eq (prints : Prints may g) (cards : h.cards = g.cards)
    (entries : h.stack.entries = g.stack.entries) : Prints may h :=
  ⟨Game.Templates.of_cards prints.templates cards, entries ▸ prints.uses⟩

theorem blind (may : SingleEffect → Prop) : BlindToTalk (Prints may) :=
  fun _ _ _ prints => prints.of_eq rfl rfl

theorem modifyCard (prints : Prints may g) {f : CardInstance → CardInstance}
    (template : ∀ i, (f i).card = i.card) : Prints may (g.modifyCard c f) :=
  ⟨Game.Templates.modifyCard prints.templates template c, prints.uses⟩

theorem push (prints : Prints may g) {u : AbilityUse} (only : u.Only may) :
    Prints may (g.modifyStack (·.push u)) := by
  refine ⟨prints.templates, fun v mem => ?_⟩
  rcases List.mem_append.1 mem with before | new
  · exact prints.uses v before
  · exact List.mem_singleton.1 new ▸ only

theorem pop (prints : Prints may g) : Prints may (g.modifyStack (·.pop.2)) :=
  ⟨prints.templates, fun v mem => prints.uses v (List.dropLast_subset _ mem)⟩

theorem addCard (prints : Prints may g) (owner : PlayerId) {template : Card}
    (only : template.Only may)
    (z : Zone) : Prints may (StateT.run (Step.addCard owner template z) g).2 :=
  ⟨Game.Templates.addCard prints.templates owner only z, prints.uses⟩

theorem keptByFiring (may : SingleEffect → Prop) : KeptByFiring (·.Only may) (Prints may) :=
  .of_blind (blind may) (fun _ _ prints => prints.of_eq rfl rfl)
    (fun {g c i a u} prints found listed fired => by
      obtain ⟨v, empty, aimed⟩ := fired.effects
      refine ⟨fired.x ▸ Int64.le_refl 0, KeptByDeeds.allowed_of_aimed aimed ?_⟩
      refine AbilityUse.allowed_prepareClauses (fun e mem => ?_)
        ((prints.templates c i found).ofTriggered listed)
      rw [empty] at mem
      exact nomatch mem)
    (fun _ prints => prints.of_eq rfl rfl) (fun _ _ prints only => prints.push only)

theorem emit (kind : EventKind) (subject : ObjectRef) :
    Step.Keeps (Prints may) (Step.emit kind subject) :=
  (keptByFiring may).keeps_emit (fun _ prints => prints.of_eq rfl rfl) fun _ prints =>
    prints.of_eq rfl rfl

theorem moveCard (c : CardId) (goal : Zone) (position : Position) :
    Act.Keeps (Prints may) (Act.moveCard c goal position) :=
  Act.keeps_moveCard_of (fun _ => emit _ _) (fun _ _ _ prints => prints.of_eq rfl rfl)
    (fun carries _ prints => prints.modifyCard fun i => (carries i).1) position

theorem keptByEffects (may : SingleEffect → Prop) {within : Amount → SingleEffect → Prop} :
    KeptByEffects within (Prints may) :=
  .of_templates (blind may).saying emit (fun _ _ _ _ prints => prints.of_eq rfl rfl)
    (fun template _ _ prints => prints.modifyCard template)
    fun owner stats kinds subtypes _ prints =>
      prints.addCard owner (.token stats kinds subtypes) .stack

theorem keeps_playUse {u : AbilityUse} (only : u.Only may) :
    Step.Keeps (Prints may) (Step.playUse Step.emit u) := by
  intro g start
  have picked := Step.keeps_pickUse (blind may) (fun _ => emit _ _) u g start
  exact picked.push (only.aimed (Step.pickUse_becomes Step.emit u g)
    (Step.pickUse_aimed Step.emit u g))

theorem keeps_castFor {i : CardInstance} (only : i.card.Only may) {x : Amount} (positive : 0 ≤ x)
    (p : PlayerId) (c : CardId) (field : Option Nat) :
    Act.Keeps (Prints may) (Act.castFor p c i field x) := by
  have paid : Act.Keeps (Prints may) (Act.pay c i.card.costs x) :=
    Act.keeps_pay_with (fun kind subject _ => emit kind subject)
      (fun _ _ _ start => start.of_eq rfl rfl)
      (fun _ _ start => start.modifyCard fun _ => rfl)
        (fun _ _ start => start.modifyCard fun _ => rfl) x
  refine paid.bind fun _ =>
    (Act.keeps_lift (Step.keeps_nextUseId fun _ start => start.of_eq rfl rfl)).bind fun id =>
    (moveCard _ _ _).bind fun _ => Act.keeps_lift (keeps_playUse ⟨?_, ?_⟩)
  · rw [(AbilityUse.prepareClauses_becomes _ _).x_eq]
    exact positive
  · exact AbilityUse.allowed_prepareClauses (fun _ mem => nomatch mem) only.ofCast

theorem resolveTop : Act.Keeps (Prints may) Act.resolveTop := by
  have k : KeptByEffects (fun x e => 0 ≤ x ∧ may e) (Prints may) := keptByEffects may
  exact Act.keeps_resolveTop_of (fun _ u prints mem =>
    k.keeps_resolveUse (prints.uses u mem).allowed)
    fun _ prints => prints.pop

theorem create {config : RulesConfig} {entrants : List Entrant}
    (created : Game.create config entrants = .ok g)
    (only : ∀ e ∈ entrants, ∀ card ∈ e.deck, card.Only may) : Prints may g := by
  refine Game.create_induction created (fun seats => ?_) fun g owner template _ mem prints => ?_
  · exact ⟨fun c i found => (nomatch found), fun u mem => (nomatch mem)⟩
  · obtain ⟨e, seat, listed⟩ := mem
    exact (prints.addCard owner (only e seat template listed) .deck).of_eq rfl rfl

end Prints

theorem KeptByEffects.and {within : Amount → SingleEffect → Prop} {P Q : Game → Prop}
    (p : KeptByEffects within P) (q : KeptByEffects within Q) :
    KeptByEffects within fun g => P g ∧ Q g where
  saying :=
    { ask := fun s prompt g h => ⟨p.saying.ask s prompt g h.1, q.saying.ask s prompt g h.2⟩
      reveal := fun s cards g h => ⟨p.saying.reveal s cards g h.1, q.saying.reveal s cards g h.2⟩
      notice := fun n kept g h => ⟨p.saying.notice n kept g h.1, q.saying.notice n kept g h.2⟩ }
  announce kind subject plain g h :=
    ⟨p.announce kind subject plain g h.1, q.announce kind subject plain g h.2⟩
  exhausted g s h empty := ⟨p.exhausted g s h.1 empty, q.exhausted g s h.2 empty⟩
  send sending g h := ⟨p.send sending g h.1, q.send sending g h.2⟩
  spawn allowed owner g h := ⟨p.spawn allowed owner g h.1, q.spawn allowed owner g h.2⟩
  damage g c n h on := ⟨p.damage g c n h.1 on, q.damage g c n h.2 on⟩
  bonus allowed g c h := ⟨p.bonus allowed g c h.1, q.bonus allowed g c h.2⟩
  activate allowed g c h := ⟨p.activate allowed g c h.1, q.activate allowed g c h.2⟩
  deactivate g c h := ⟨p.deactivate g c h.1, q.deactivate g c h.2⟩
  store stores g s h := ⟨p.store stores g s h.1, q.store stores g s h.2⟩
  harm s n g h := ⟨p.harm s n g h.1, q.harm s n g h.2⟩
  heal allowed s g h := ⟨p.heal allowed s g h.1, q.heal allowed s g h.2⟩
  shuffle s z g h := ⟨p.shuffle s z g h.1, q.shuffle s z g h.2⟩
  random g r h := ⟨p.random g r h.1, q.random g r h.2⟩
  resolving g c h := ⟨p.resolving g c h.1, q.resolving g c h.2⟩

/-- A property that the course of a game keeps when cards and uses have only effects of some sort. A
card that is cast, and a use that is taken off the stack, may be in between for a while. -/
structure KeptByPrints (may : SingleEffect → Prop) (P : Game → Prop) : Prop
    extends KeptByEffects (fun x e => 0 ≤ x ∧ may e) P where
  talks : ∀ {p g h}, Talks p g h → P g → P h
  turned : ∀ {f}, Turns f → ∀ g c, P g → P (g.modifyCard c f)
  castFor : ∀ p c i field x, Act.Keeps P (Act.castFor p c i field x)
  resolveTop : Act.Keeps (fun g => Prints may g ∧ P g) Act.resolveTop
  pushed : ∀ g u, P g → P (g.modifyStack (·.push u))
  numbered : ∀ g, P g → P { g with nextUse := g.nextUse + 1 }
  priority : ∀ {f : PriorityStack → PriorityStack}, (∀ s, (f s).entries = s.entries) →
    ∀ g, P g → P (g.modifyStack f)
  turn : ∀ g t, P g → P { g with turn := t }
  startLife : ∀ g, P g →
    P { g with players := g.players.map fun s => { s with life := g.config.startLife } }

theorem KeptByPrints.of_stackless {P : Game → Prop} (k : KeptByEffects (fun x e => 0 ≤ x ∧ may e) P)
    (talks : ∀ {p g h}, Talks p g h → P g → P h)
    (turned : ∀ {f}, Turns f → ∀ g c, P g → P (g.modifyCard c f))
    (move : ∀ c position, Act.Keeps P (Act.moveCard c .stack position))
    (stackless : ∀ g stack count, P g → P { g with stack := stack, nextUse := count })
    (turn : ∀ g t, P g → P { g with turn := t }) (startLife : ∀ g, P g →
      P { g with players := g.players.map fun s => { s with life := g.config.startLife } }) :
    KeptByPrints may P :=
  { k with
    talks := talks, turned := turned, turn := turn, startLife := startLife
    castFor := k.keeps_castFor turned move stackless
    resolveTop := Act.keeps_resolveTop_of
      (fun _ u start mem =>
        ((Prints.keptByEffects may).and k).keeps_resolveUse (start.1.uses u mem).allowed)
      fun g start => ⟨start.1.pop, stackless g _ g.nextUse start.2⟩
    pushed := fun g _ start => stackless g _ g.nextUse start
    numbered := fun g start => stackless g g.stack _ start
    priority := fun _ g start => stackless g _ g.nextUse start }

namespace KeptByPrints

open Act

variable {P : Game → Prop} (k : KeptByPrints may P)
include k

theorem talksAlso {p : PlayerId} {g h : Game} (talks : Talks p g h) (start : Prints may g ∧ P g) :
    Prints may h ∧ P h :=
  ⟨talks.keep (Prints.blind may) start.1, k.talks talks start.2⟩

theorem effects : KeptByEffects (fun x e => 0 ≤ x ∧ may e) fun g => Prints may g ∧ P g :=
  (Prints.keptByEffects may).and k.toKeptByEffects

theorem turnedAlso {f : CardInstance → CardInstance} (turns : Turns f) (g : Game) (c : CardId)
    (start : Prints may g ∧ P g) : Prints may (g.modifyCard c f) ∧ P (g.modifyCard c f) :=
  ⟨start.1.modifyCard fun i => by rw [turns i], k.turned turns g c start.2⟩

theorem numberedAlso (g : Game) (start : Prints may g ∧ P g) :
    Prints may { g with nextUse := g.nextUse + 1 } ∧ P { g with nextUse := g.nextUse + 1 } :=
  ⟨start.1.of_eq rfl rfl, k.numbered g start.2⟩

theorem priorityAlso {f : PriorityStack → PriorityStack} (entries : ∀ s, (f s).entries = s.entries)
    (g : Game) (start : Prints may g ∧ P g) : Prints may (g.modifyStack f) ∧ P (g.modifyStack f) :=
  ⟨start.1.of_eq rfl (entries g.stack), k.priority entries g start.2⟩

theorem turnAlso (g : Game) (t : TurnState) (start : Prints may g ∧ P g) :
    Prints may { g with turn := t } ∧ P { g with turn := t } :=
  ⟨start.1.of_eq rfl rfl, k.turn g t start.2⟩

theorem keeps_playUse {u : AbilityUse} (only : u.Only may) :
    Step.Keeps (fun g => Prints may g ∧ P g) (Step.playUse Step.emit u) := fun g start =>
  ⟨Prints.keeps_playUse only g start.1, k.pushed _ _ (k.toKeptByEffects.keeps_pickUse u g start.2)⟩

theorem keeps_pay (c : CardId) (costs : List CostSymbol) (x : Amount) :
    Keeps (fun g => Prints may g ∧ P g) (pay c costs x) :=
  keeps_pay_with k.effects.announce k.effects.store (fun _ g => k.turnedAlso (fun _ => rfl) g c)
    (fun _ g => k.turnedAlso (fun _ => rfl) g c) x

theorem keeps_castFor {i : CardInstance} (only : i.card.Only may) {x : Amount} (positive : 0 ≤ x)
    (p : PlayerId) (c : CardId) (field : Option Nat) :
    Keeps (fun g => Prints may g ∧ P g) (Act.castFor p c i field x) := fun g start =>
  ⟨Prints.keeps_castFor only positive p c field g start.1, k.castFor p c i field x g start.2⟩

theorem keeps_activateFor {a : Activated}
    (allowed : ∀ clause ∈ a.effectCosts ++ a.effect.effects, ∀ e ∈ clause.singles, may e)
    {x : Amount} (positive : 0 ≤ x) (p : PlayerId) (c : CardId) :
    Keeps (fun g => Prints may g ∧ P g) (Act.activateFor p c a x) := by
  refine (k.keeps_pay c a.resourceCosts x).bind fun _ =>
    (keeps_lift (Step.keeps_nextUseId k.numberedAlso)).bind fun id => ?_
  have costs : (AbilityUse.paying id p c a x).Only may := by
    refine ⟨?_, AbilityUse.allowed_prepareClauses (fun _ mem => nomatch mem) fun clause mem =>
      allowed clause (List.mem_append_left _ mem)⟩
    rwa [AbilityUse.x_paying]
  have paid := ((k.effects.keeps_payActions costs.allowed).leads_of
    (payActions_effects _)).ends.giving
    (payActions_becomes _) fun _ _ left becomes => And.intro left becomes
  refine (Leads.bind paid.leads fun v g ⟨⟨start, empty⟩, becomes⟩ => ?_).keeps
  have bought : (v.prepare a.effect).Only may := by
    refine ⟨(v.prepareClauses_becomes a.effect.effects).x_eq ▸ becomes.x_eq ▸ costs.positive, ?_⟩
    exact AbilityUse.allowed_prepareClauses
      (fun e mem => nomatch (empty ▸ mem : e ∈ [])) fun clause mem =>
      allowed clause (List.mem_append_right _ mem)
  have used : Keeps (fun g => Prints may g ∧ P g) (if a.isCost then do
      resolveUse (← Step.pickUse Step.emit (v.prepare a.effect))
      modifyThe Game (·.modifyStack (·.acted))
    else Step.playUse Step.emit (v.prepare a.effect) : Act Unit) := by
    split
    · exact k.effects.keeps_pickUse_bind bought.allowed fun u allowed =>
        (k.effects.keeps_resolveUse allowed).bind fun _ =>
          keeps_modifyThe fun g start => k.priorityAlso (f := .acted) (fun _ => rfl) g start
    · exact keeps_lift (k.keeps_playUse bought)
  exact used.leads g start

theorem course (rules : AllowsRules may) : KeptByCourse fun g => Prints may g ∧ P g where
  saying := k.effects.saying
  announce := k.effects.announce
  cast p c field := by
    refine keeps_cast_of k.talksAlso (fun g i slot _ start found positive => ?_) field
    exact (k.keeps_castFor (start.1.templates c i found) positive p c slot).leads.ends.starting
      fun _ talks => k.talksAlso talks start
  activate p c index := by
    refine keeps_activate_of k.talksAlso (fun g i _ _ start found _ listed positive => ?_) index
    have allowed := (start.1.templates c i found).ofActivated rules listed
    exact (k.keeps_activateFor allowed positive p c).leads.ends.starting
      fun _ talks => k.talksAlso talks start
  playSource := k.effects.keeps_playSource k.turnedAlso k.turnAlso k.priorityAlso
  draw := k.effects.keeps_draw
  beginTurn := k.effects.keeps_beginTurn k.turnedAlso k.turnAlso
  priority := k.priorityAlso
  turn := k.turnAlso
  resolveTop := k.resolveTop
  store := k.effects.store
  startLife g start := ⟨start.1.of_eq rfl rfl, k.startLife g start.2⟩
  random := k.effects.random

end KeptByPrints

end CardGame
