import CardGame.Grammar.Card
import CardGame.Proofs.Printed

/-!
Cards whose records name the stack. A card is on the stack while it is being cast, which is to say
that a use of it waits there; but the record and the use are written one after the other. A cast
moves the card before its use is put on the stack, a resolution takes the use off before the card
moves on, and a token is recorded on the stack until it reaches its board. So there are cards that
are covered by no use for a while, and effects that put or shuffle cards into the stack leave some
for good.
-/

namespace CardGame

def Card.stacksCards (c : Card) : Bool :=
  c.effects.any (·.stacksCards)

/-- A card is being cast: a use of it waits on the stack. -/
def Game.Casts (g : Game) (c : CardId) : Prop :=
  ∃ u ∈ g.stack.entries, u.kind = .cast ∧ u.source = c

/-- Every card that its record says to be on the stack is being cast, some cards apart. -/
def Covered (apart : List CardId) (g : Game) : Prop :=
  ∀ c i, g.card? c = some i → i.zone = .stack → c ∉ apart → g.Casts c

def SingleEffect.SparesStack (e : SingleEffect) : Prop :=
  e.stacksCards = false

theorem allowsRules_sparesStack : AllowsRules SingleEffect.SparesStack :=
  ⟨rfl, fun _ => rfl⟩

namespace Covered

variable {apart later : List CardId} {g h : Game} {c : CardId} {f : CardInstance → CardInstance}

theorem of_grown (covered : Covered apart g) (cards : h.cards = g.cards)
    (grown : g.stack.entries ⊆ h.stack.entries) : Covered apart h := by
  intro c i found stacked settled
  rw [Game.card?, cards] at found
  obtain ⟨u, mem, cast⟩ := covered c i found stacked settled
  exact ⟨u, grown mem, cast⟩

theorem of_eq (covered : Covered apart g) (cards : h.cards = g.cards)
    (entries : h.stack.entries = g.stack.entries) : Covered apart h :=
  covered.of_grown cards fun _ mem => entries ▸ mem

theorem blind (apart : List CardId) : BlindToTalk (Covered apart) :=
  fun _ _ _ covered => covered.of_eq rfl rfl

theorem join (covered : Covered (c :: apart) g) (off : ∀ i, g.card? c = some i → i.zone ≠ .stack) :
    Covered apart g := by
  intro d i found stacked settled
  refine covered d i found stacked (List.not_mem_cons_of_ne_of_not_mem ?_ settled)
  rintro rfl
  exact off i found stacked

theorem modifyCard (covered : Covered apart g) (others : ∀ d, d ≠ c → d ∉ later → d ∉ apart)
    (own : ∀ i, g.card? c = some i → (f i).zone = .stack → c ∉ later → g.Casts c) :
    Covered later (g.modifyCard c f) := by
  intro d i found stacked settled
  by_cases same : c = d
  · subst same
    rw [Game.card?_modifyCard_self] at found
    obtain ⟨j, known, rfl⟩ := Option.map_eq_some_iff.1 found
    exact own j known stacked settled
  · rw [Game.card?_modifyCard_of_ne _ same] at found
    exact covered d i found stacked (others d (Ne.symm same) settled)

theorem elsewhere (covered : Covered apart g) (zone : ∀ i, (f i).zone = .stack → i.zone = .stack) :
    Covered apart (g.modifyCard c f) :=
  covered.modifyCard (fun _ _ settled => settled) fun i found stacked settled =>
    covered c i found (zone i stacked) settled

theorem mark (covered : Covered apart g) (marks : Marks f) : Covered apart (g.modifyCard c f) :=
  covered.elsewhere fun i stacked => by
    rw [marks i] at stacked
    exact stacked

theorem addCard (covered : Covered apart g) (i : CardInstance) :
    Covered (⟨g.cards.size⟩ :: apart) { g with cards := g.cards.push i } := by
  intro d j found stacked settled
  obtain ⟨other, settled⟩ := List.ne_and_not_mem_of_not_mem_cons settled
  change (g.cards.push i)[d.index]? = some j at found
  rw [Array.getElem?_push, if_neg fun same => other (congrArg CardId.mk same)] at found
  exact covered d j found stacked settled

theorem push {u : AbilityUse} (cast : u.kind = .cast) (covered : Covered (u.source :: apart) g) :
    Covered apart (g.modifyStack (·.push u)) := by
  intro d i found stacked settled
  by_cases own : d = u.source
  · exact ⟨u, List.mem_append_right _ (.head _), cast, own.symm⟩
  · obtain ⟨v, mem, cast⟩ := covered d i found stacked
      (List.not_mem_cons_of_ne_of_not_mem own settled)
    exact ⟨v, List.mem_append_left _ mem, cast⟩

theorem pop {u : AbilityUse} (covered : Covered apart g) (top : g.stack.entries.getLast? = some u)
    (own : u.kind = .cast → u.source ∈ later) (more : apart ⊆ later) :
    Covered later (g.modifyStack (·.pop.2)) := by
  intro d i found stacked settled
  obtain ⟨v, mem, cast, source⟩ := covered d i found stacked (mt (@more d) settled)
  rw [← List.dropLast_append_getLast? u top] at mem
  rcases List.mem_append.1 mem with kept | taken
  · exact ⟨v, kept, cast, source⟩
  · obtain rfl := List.mem_singleton.1 taken
    exact absurd (source ▸ own cast) settled

theorem emit (kind : EventKind) (subject : ObjectRef) :
    Step.Keeps (Covered apart) (Step.emit kind subject) := by
  intro g covered
  rcases Step.emit_cases kind subject g with dropped | frame
  · rw [dropped]
    exact covered.of_eq rfl rfl
  · obtain ⟨fired, -, stack⟩ := frame.stack
    refine covered.of_grown frame.cards fun u mem => ?_
    rw [stack]
    exact List.mem_append_left _ mem

theorem takeOut (c : CardId) (i : CardInstance) : Act.Keeps (Covered apart) (Act.takeOut c i) :=
  Act.keeps_takeOut_with .stack (emit _ _) (fun _ _ _ covered => covered.of_eq rfl rfl)
    (fun _ covered => covered.elsewhere fun _ stacked => stacked) i

theorem moveCard {goal : Zone} (elsewhere : goal ≠ .stack) (c : CardId) (position : Position) :
    Act.Keeps (Covered apart) (Act.moveCard c goal position) :=
  Act.keeps_moveCard_of (fun _ => emit _ _) (fun _ _ _ covered => covered.of_eq rfl rfl)
    (fun carries _ covered => covered.elsewhere fun i stacked =>
      (carries i).2.1.elim (· ▸ stacked) fun arrived =>
        absurd (arrived.symm.trans stacked) elsewhere) position

end Covered

/-- A card that goes to a board has a slot there. -/
def Game.HasSlot (g : Game) (i : CardInstance) : Position → Prop
  | .index k => (g.player i.controller).board.isFree k
  | _ => (g.player i.controller).board.firstFree?.isSome

namespace Act

variable {apart : List CardId} {c : CardId} {i : CardInstance} {goal : Zone}
  {F : EngineError → Game → Prop}

theorem ends_slotFor_of_hasSlot {P : Game → Prop} {position : Position} (off : i.zone ≠ .board)
    (slot : ∀ g, P g → goal = .board → g.HasSlot i position) :
    Ends P (slotFor c i goal position) (fun _ => P) F := by
  unfold slotFor
  split
  · exact ends_pure fun _ start => start
  · next board =>
    have free := fun g start => slot g start (Decidable.not_not.1 board)
    refine ends_readGame.bind fun known => ?_
    dsimp only
    cases position with
    | index k =>
      dsimp only
      split
      · exact ends_pure fun _ start => start.2
      · next taken => exact ends_throw fun g start => absurd (start.1 ▸ free g start.2) taken
    | _ =>
      dsimp only
      split
      · exact ends_pure fun _ start => start.2
      · next full =>
        refine ends_throw fun g start => ?_
        have room : (g.player i.controller).board.firstFree?.isSome := free g start.2
        rw [← start.1, full] at room
        exact nomatch room

theorem ends_putInto_covered {later : List CardId} (others : ∀ d, d ≠ c → d ∉ later → d ∉ apart)
    (own : goal = .stack → c ∈ later) (position : Position) (slot : Option Nat) :
    Ends (Covered apart) (putInto c i goal position slot) (fun _ => Covered later) F := by
  have recorded : Ends (Covered apart)
    (modifyThe Game (·.modifyCard c fun i => { i with zone := goal }))
      (fun _ => Covered later) F :=
    ends_modifyThe fun g covered => covered.modifyCard others fun _ _ stacked settled =>
      absurd (own stacked) settled
  unfold putInto
  cases slot with
  | none =>
    exact (ends_modifyThe (Q := fun _ => Covered apart) fun _ covered => covered.of_eq rfl rfl).bind
      fun _ => recorded
  | some k =>
    refine Ends.bind (Q := fun _ => Covered apart) ?_ fun _ => recorded
    exact ends_modifyThe fun g covered =>
      Covered.elsewhere (g := g.modifyPlayer _ _) (covered.of_eq rfl rfl) fun _ stacked => stacked

theorem ends_moveCard_unstacked {P : Game → Prop} {position : Position} (elsewhere : goal ≠ .stack)
    (stacked : i.zone = .stack) (covered : ∀ g, P g → Covered (c :: apart) g)
    (found : ∀ g, P g → g.card? c = some i)
    (slot : ∀ g, P g → goal = .board → g.HasSlot i position) :
    Ends P (moveCard c goal position) (fun _ => Covered apart) F := by
  refine (ends_readCard found).bind fun j => .given fun same => ?_
  subst same
  have off : j.zone ≠ .board := fun board => nomatch stacked.symm.trans board
  refine (ends_slotFor_of_hasSlot off slot).bind fun k => ?_
  refine Ends.bind (Q := fun _ => Covered (c :: apart)) ?_ fun _ => ?_
  · unfold takeOut
    rw [if_neg off]
    exact ends_modifyThe fun g start => (covered g start).of_eq rfl rfl
  refine Ends.bind (Q := fun _ => Covered apart) ?_ fun _ => ?_
  · exact ends_putInto_covered (fun d other settled =>
      List.not_mem_cons_of_ne_of_not_mem other settled)
      (absurd · elsewhere) _ _
  · split
    · exact ends_lift (Covered.emit _ _).ends
    · exact ends_pure fun _ start => start

theorem leads_moveCard_stacked (c : CardId) (position : Position) :
    Leads (Covered apart) (moveCard c .stack position) (fun _ => Covered (c :: apart))
      (Covered apart) := by
  refine (keeps_card c).leads.bind fun i =>
    (keeps_slotFor c i .stack position).leads.bind fun slot =>
    (Covered.takeOut c i).leads.bind fun _ => ?_
  refine Leads.bind (Q := fun _ => Covered (c :: apart)) (Ends.leads ?_) fun _ => ?_
  · exact ends_putInto_covered (fun d _ settled => List.not_mem_of_not_mem_cons settled)
      (fun _ => .head _) _ _
  · rw [if_neg nofun]
    exact leads_pure fun _ start => start

theorem keeps_createCard_covered (owner : PlayerId) (template : Card) :
    Keeps (Covered apart) (createCard owner template .board) := by
  have added : Leads (fun g => Covered apart g ∧ (g.player owner).board.firstFree?.isSome)
      (liftM (Step.addCard owner template .stack) : Act CardId)
      (fun c g => (Covered (c :: apart) g ∧ (g.player owner).board.firstFree?.isSome) ∧
        g.card? c = some (.fresh c template owner .stack)) (Covered apart) :=
    leads_lift fun g start => ⟨⟨start.1.addCard _, start.2⟩, Array.getElem?_push_size⟩
  have moved : ∀ c,
    Leads (fun g => (Covered (c :: apart) g ∧ (g.player owner).board.firstFree?.isSome) ∧
      g.card? c = some (.fresh c template owner .stack)) (moveCard c .board .bottom)
      (fun _ => Covered apart) (Covered apart) := fun c =>
    (ends_moveCard_unstacked (by decide) rfl (fun _ start => start.1.1) (fun _ start => start.2)
      fun _ start _ => start.1.2).leads
  have room : ∀ known, Leads (fun g => known = g ∧ Covered apart g)
      (require ((Zone.board ≠ .board) || (known.player owner).board.firstFree?.isSome)
        (.illegalTransition ⟨known.cards.size⟩ .stack .board .boardFull))
      (fun _ g => Covered apart g ∧ (g.player owner).board.firstFree?.isSome) (Covered apart) := by
    refine fun known => leads_require (fun g start met => ⟨start.2, ?_⟩) fun _ start => start.2
    obtain ⟨rfl, -⟩ := start
    simpa using met
  have read : Leads (Covered apart) (getThe Game) (fun known g => known = g ∧ Covered apart g)
      (Covered apart) := ends_readGame.leads
  refine (read.bind fun known => Leads.bind (Q := fun _ g => known = g ∧ Covered apart g)
    ?_ fun _ => ?_).keeps
  · exact leads_require (fun _ start _ => start) fun _ start => start.2
  · exact (room known).bind fun _ => added.bind fun c => (moved c).bind fun _ =>
      leads_pure fun _ start => start

end Act

theorem Covered.keptByEffects (apart : List CardId) :
    KeptByEffects (fun x e => 0 ≤ x ∧ e.SparesStack) (Covered apart) where
  saying := (blind apart).saying
  announce kind subject _ := emit kind subject
  exhausted g _ start _ := emit _ _ g start
  send sending := by
    refine moveCard (fun stack => ?_) _ _
    obtain ⟨x, e, spares, sent⟩ := sending (.inl stack)
    rw [stack, e.sendsTo_stack] at sent
    exact Bool.false_ne_true (spares.2.symm.trans sent)
  spawn _ owner := Act.keeps_createCard_covered owner _
  damage _ _ _ covered _ := covered.mark fun _ => rfl
  bonus _ _ _ covered := covered.mark fun _ => rfl
  activate _ _ _ covered := covered.mark fun _ => rfl
  deactivate _ _ covered := covered.mark fun _ => rfl
  store _ _ _ covered := covered.of_eq rfl rfl
  harm _ _ := Step.keeps_loseLife_of (fun _ covered => covered.of_eq rfl rfl) (emit _ _) (emit _ _)
  heal _ _ := Step.keeps_gainLife_of (fun _ covered => covered.of_eq rfl rfl) (emit _ _)
  shuffle p z := Step.keeps_shuffleZone_of p z (fun _ _ _ covered => covered.of_eq rfl rfl)
    fun _ _ covered => covered.of_eq rfl rfl
  random _ _ covered := covered.of_eq rfl rfl
  resolving _ _ covered := covered.of_eq rfl rfl

namespace Act

variable {apart : List CardId}

theorem keeps_castFor_covered (p : PlayerId) (c : CardId) (i : CardInstance) (field : Option Nat)
    (x : Amount) :
    Keeps (Covered apart) (castFor p c i field x) := by
  have k := Covered.keptByEffects apart
  have paid : Keeps (Covered apart) (pay c i.card.costs x) :=
    keeps_pay_with k.announce k.store (fun _ _ covered => covered.mark fun _ => rfl)
      (fun _ _ covered => covered.mark fun _ => rfl) x
  refine (paid.leads.bind fun _ => ?_).keeps
  refine (keeps_lift (Step.keeps_nextUseId fun _ covered => covered.of_eq rfl rfl)).leads.bind
    fun id => ?_
  refine (leads_moveCard_stacked c .top).bind fun _ => leads_lift fun g covered => ?_
  let u := { AbilityUse.fresh id .cast c p with x := x, field := field }.prepareClauses
    (castClauses i)
  have becomes := (AbilityUse.prepareClauses_becomes _ _).trans (Step.pickUse_becomes Step.emit u g)
  have picked := (Covered.keptByEffects (c :: apart)).keeps_pickUse u g covered
  exact Covered.push becomes.kind_eq (becomes.source_eq ▸ picked)

theorem leads_finishCast_covered (u : AbilityUse) :
    Leads (Covered (u.source :: apart)) (finishCast u) (fun _ => Covered apart)
      (Covered apart) := by
  have played : Leads (Covered apart) (liftM (Step.emit .play (.card u.source)) : Act Unit)
      (fun _ => Covered apart) (Covered apart) := (keeps_lift (Covered.emit _ _)).leads
  have found : Leads (Covered (u.source :: apart)) (card u.source)
      (fun i g => Covered (u.source :: apart) g ∧ g.card? u.source = some i) (Covered apart) := by
    refine Ends.leads
      (ends_card (fun g i covered found => ⟨covered, found⟩) fun g covered missing => ?_)
    exact covered.join fun i found => nomatch missing.symm.trans found
  refine found.bind fun i => ?_
  dsimp only
  split
  · next stacked =>
    have onPile : Leads (fun g => Covered (u.source :: apart) g ∧ g.card? u.source = some i)
        (moveCard u.source .pile .top) (fun _ => Covered apart) (Covered apart) :=
      Ends.leads (ends_moveCard_unstacked nofun stacked (fun _ start => start.1)
        (fun _ start => start.2)
        fun _ _ => nofun)
    split
    · refine (ends_readGame.leads (E := Covered apart)).bind fun known => ?_
      split
      · next slot chosen =>
        have free : (known.player i.controller).board.isFree slot := by
          rcases Option.or_eq_some_iff.1 chosen with wanted | ⟨-, first⟩
          · exact (Option.filter_eq_some_iff.1 wanted).2
          · exact Board.isFree_of_firstFree? _ first
        have onBoard : Leads (fun g => known = g ∧ Covered (u.source :: apart) g ∧
          g.card? u.source = some i)
            (moveCard u.source .board (.index slot)) (fun _ => Covered apart) (Covered apart) := by
          refine Ends.leads (ends_moveCard_unstacked nofun stacked (fun _ start => start.2.1)
            (fun _ start => start.2.2) fun g start _ => ?_)
          obtain ⟨rfl, -⟩ := start
          exact free
        exact onBoard.bind fun _ => played
      · have told : Leads (fun g => known = g ∧ Covered (u.source :: apart) g ∧
          g.card? u.source = some i)
            (liftM (Step.notice (.noFreeSlot u.source)) : Act Unit)
            (fun _ g => Covered (u.source :: apart) g ∧ g.card? u.source = some i)
              (Covered apart) :=
          leads_lift fun g start => ⟨start.2.1.of_eq rfl rfl, start.2.2⟩
        exact told.bind fun _ => onPile.bind fun _ => played
    · exact onPile.bind fun _ => played
  · next off =>
    refine fun g start => played g (start.1.join fun j found => ?_)
    exact Option.some.inj (start.2.symm.trans found) ▸ off

/-- Of a cast use that was taken off the stack the card is covered by nothing until the use is
through, also when one of its effects fails. -/
theorem leads_resolveUse_covered {u : AbilityUse} (cast : u.kind = .cast)
    (allowed : ∀ e ∈ u.effects, 0 ≤ u.x ∧ e.effect.SparesStack) :
    Leads (Covered (u.source :: apart)) (resolveUse u) (fun _ => Covered apart)
      (Covered apart) := by
  have k := Covered.keptByEffects (u.source :: apart)
  have through : Leads (Covered (u.source :: apart)) (do
      let result ← attempt (resolveEffects u)
      if u.kind = .cast then finishCast u
      let _ ← ofOutcome result : Act Unit) (fun _ => Covered apart) (Covered apart) := by
    refine (k.keeps_resolveEffects allowed).leads.attempt.bind fun result => ?_
    rw [if_pos cast]
    exact (leads_finishCast_covered u).bind fun _ => (keeps_ofOutcome _).leads.bind fun _ =>
      leads_pure fun _ covered => covered
  refine (leads_getThe (Q := fun _ => Covered (u.source :: apart)) fun _ covered =>
    covered).bind fun _ => ?_
  refine (leads_modifyThe (Q := fun _ => Covered (u.source :: apart)) fun _ covered =>
    covered.of_eq rfl rfl).bind fun _ => through.attempt.bind fun _ => ?_
  exact (leads_modifyThe (Q := fun _ => Covered apart) fun _ covered =>
    covered.of_eq rfl rfl).bind fun _ =>
    (keeps_ofOutcome _).leads

theorem keeps_resolveTop_covered :
    Keeps (fun g => Prints SingleEffect.SparesStack g ∧ Covered apart g) resolveTop := by
  intro g ⟨prints, covered⟩
  refine ⟨Prints.resolveTop g prints, ?_⟩
  change Covered apart (StateT.run (ExceptT.run resolveTop) g).2
  cases top : g.stack.entries.getLast? with
  | none =>
    rw [resolveTop_of_empty top]
    exact covered
  | some u =>
    have allowed := (prints.uses u (List.mem_of_getLast? top)).allowed
    rw [resolveTop_of_top top]
    by_cases cast : u.kind = .cast
    · have resolved : Leads (Covered (u.source :: apart)) (do resolveUse u; return true : Act Bool)
          (fun _ => Covered apart) (Covered apart) :=
        (leads_resolveUse_covered cast allowed).bind fun _ => leads_pure fun _ done => done
      exact resolved.left (fun _ _ done => done) (fun _ failed => failed)
        (covered.pop top (fun _ => .head _) (List.subset_cons_self _ _))
    · have resolved := ((Covered.keptByEffects apart).keeps_resolveUse allowed).bind fun _ =>
        keeps_pure true
      exact resolved _ (covered.pop top (fun yes => absurd yes cast) (List.Subset.refl _))

end Act

theorem Covered.keptByPrints : KeptByPrints SingleEffect.SparesStack (Covered []) where
  toKeptByEffects := keptByEffects []
  talks talk start := talk.keep (blind []) start
  turned turns _ _ covered := covered.mark turns.marks
  castFor := Act.keeps_castFor_covered
  resolveTop := Act.keeps_resolveTop_covered
  pushed _ _ covered := covered.of_grown rfl (List.subset_append_left _ _)
  numbered _ covered := covered.of_eq rfl rfl
  priority entries g covered := covered.of_eq rfl (entries g.stack)
  turn _ _ covered := covered.of_eq rfl rfl
  startLife _ covered := covered.of_eq rfl rfl

theorem Covered.create {config : RulesConfig} {entrants : List Entrant} {g : Game}
    (created : Game.create config entrants = .ok g) : Covered [] g := by
  refine Game.create_induction created
    (fun _ _ _ found => nomatch found) fun g owner template _ _ covered => ?_
  have added := covered.addCard (.fresh ⟨g.cards.size⟩ template owner .deck)
  refine Covered.of_eq (added.join fun i found => ?_) rfl rfl
  obtain rfl := Option.some.inj (found.symm.trans Array.getElem?_push_size)
  nofun

/-- In the course of a game a card on the stack is being cast, unless some card of the decks has an
effect that puts or shuffles cards into the stack. -/
theorem casts_onStack {config : RulesConfig} {entrants : List Entrant} {start g : Game}
    (created : Game.create config entrants = .ok start)
    (course : ReachedFrom start (fun op => op.plays) g) {c : CardId} {i : CardInstance}
    (found : g.card? c = some i) (stacked : i.zone = .stack) :
    g.Casts c ∨ ∃ e ∈ entrants, ∃ card ∈ e.deck, card.stacksCards := by
  by_cases stacking : ∃ e ∈ entrants, ∃ card ∈ e.deck, card.stacksCards
  · exact .inr stacking
  · have spares : ∀ e ∈ entrants, ∀ card ∈ e.deck, card.Only SingleEffect.SparesStack := by
      refine fun e seat card listed effect mem => Bool.eq_false_iff.2 fun puts => stacking ?_
      exact ⟨e, seat, card, listed, List.any_eq_true.2 ⟨effect, mem, puts⟩⟩
    have k := Covered.keptByPrints.course allowsRules_sparesStack
    have covered := (k.reachedFrom ⟨Prints.create created spares, Covered.create created⟩ course).2
    exact .inl (covered c i found stacked nofun)

def Card.banish : Card :=
  ((blank "Banish").withKind ⟨.spell, false⟩).withAbility (.composed ⟨[.player none false
    [.put [.filter ⟨some .target, [.kind ⟨.unit, false⟩], none, none, []⟩] .into [.stack] false
      false false]]⟩)

/-- A unit that was put into the stack is there although nothing waits; some card put it there. -/
theorem casts_onStack_banish :
    ∃ start, Game.create {} [⟨[(Card.blank "Squire").withKind ⟨.unit, false⟩, .banish], .first⟩,
        ⟨[], .pass⟩] = .ok start ∧
      Grammar.parse "Banish\nSpell\nPut target unit into the stack." = .ok .banish ∧
      let g := Operation.performAll start [.enterPhase .draw, .enterPhase .draw, .enterPhase .play,
        .cast ⟨0⟩ ⟨0⟩ none, .resolveTop, .cast ⟨0⟩ ⟨1⟩ none, .resolveTop]
      ∃ i, g.card? ⟨0⟩ = some i ∧ i.zone = .stack ∧ g.stack.entries = [] ∧
        ∃ card ∈ [(Card.blank "Squire").withKind ⟨.unit, false⟩, .banish], card.stacksCards := by
  refine ⟨_, rfl, by decide +kernel, ?_⟩
  intro g
  have there : (g.card? ⟨0⟩).any fun i => i.zone == .stack := by decide +kernel
  obtain ⟨i, found, stacked⟩ := (Option.any_eq_true _ _).1 there
  have none : g.stack.entries.isEmpty := by decide +kernel
  replace none := List.isEmpty_iff.1 none
  have created : Game.create {} [⟨[(Card.blank "Squire").withKind ⟨.unit, false⟩, .banish], .first⟩,
    ⟨[], .pass⟩] = .ok _ := rfl
  refine ⟨i, found, eq_of_beq stacked, none, ?_⟩
  have waits : ¬ g.Casts ⟨0⟩ := fun ⟨u, mem, _⟩ => List.ne_nil_of_mem mem none
  have course : ReachedFrom _ (fun op => op.plays) g := .performAll .start _ (by decide)
  obtain ⟨e, seat, card, listed, stacking⟩ :=
    (casts_onStack created course found (eq_of_beq stacked)).resolve_left waits
  rcases List.mem_cons.1 seat with rfl | other
  · exact ⟨card, listed, stacking⟩
  · obtain rfl := List.mem_singleton.1 other
    exact nomatch listed

end CardGame
