import CardGame.Proofs.Survival

/-!
The sign of power. What is printed is not negative when the cards are read from text, and a bonus is
added with a sum that stops at the ends of the range. So the power of a card gets below zero only by
a bonus with a minus sign, wherever the bonus was given and however many there are.
-/

namespace CardGame

structure CardInstance.Unweakened (i : CardInstance) : Prop where
  printed : 0 ≤ i.printed Stats.power
  bonuses : ∀ m ∈ i.modifiers, 0 ≤ m.power

namespace CardInstance.Unweakened

variable {i j : CardInstance}

theorem power (unweakened : i.Unweakened) : 0 ≤ i.power := by
  have added : ∀ (bonuses : List Modifier) (total : Amount), 0 ≤ total →
    (∀ m ∈ bonuses, 0 ≤ m.power) →
      0 ≤ bonuses.foldl (fun total m => Amount.plus total m.power) total := by
    intro bonuses
    induction bonuses with
    | nil => exact fun _ positive _ => positive
    | cons m rest ih =>
      intro total positive more
      refine ih _ ?_ fun n mem => more n (.tail _ mem)
      exact Int64.le_trans positive (Amount.le_plus (more m (.head _)))
  exact added _ _ unweakened.printed unweakened.bonuses

theorem of_modifiers (unweakened : i.Unweakened) (template : j.card = i.card)
    (modifiers : j.modifiers ⊆ i.modifiers) : j.Unweakened := by
  refine ⟨?_, fun m mem => unweakened.bonuses m (modifiers mem)⟩
  rw [CardInstance.printed, template]
  exact unweakened.printed

theorem fresh {template : Card} (stats : ∀ s ∈ template.stats, s.Printable) (c : CardId)
    (owner : PlayerId) (z : Zone) : (CardInstance.fresh c template owner z).Unweakened := by
  refine ⟨?_, nofun⟩
  change 0 ≤ (template.stats.map fun s => s.power.value 0).getD 0
  cases found : template.stats with
  | none => exact Int64.le_refl 0
  | some s => exact (stats s found).1.value_nonnegative (Int64.le_refl 0)

end CardInstance.Unweakened

namespace SingleEffect

def weakens : SingleEffect → Bool
  | card (.gets .minus power _ _) => power != .number 0
  | _ => false

/-- An effect that gives no negative power, neither to cards nor to tokens. -/
def LeavesPower : SingleEffect → Prop
  | player (.token _ stats _ _) => ∀ s ∈ stats, s.Printable
  | card (.gets sign power _ _) => power.Printable ∧ (sign = .minus → power = .number 0)
  | _ => True

theorem allowsRules_leavesPower : AllowsRules LeavesPower :=
  ⟨trivial, fun _ => trivial⟩

theorem LeavesPower.bonus {sign healthSign : Sign} {power health : Quantity}
    (allowed : LeavesPower (.card (.gets sign power healthSign health))) {x : Amount}
    (positive : 0 ≤ x) :
    0 ≤ sign.apply (power.value x) := by
  cases sign with
  | plus => exact allowed.1.value_nonnegative positive
  | minus =>
    rw [allowed.2 rfl]
    exact (by decide : (0 : Amount) ≤ Amount.opposite 0)

theorem leavesPower_of_printable {e : SingleEffect} (printable : e.Printable)
    (spares : e.weakens = false) :
    e.LeavesPower := by
  cases e with
  | player effect =>
    cases effect with
    | token count stats kinds subtypes => exact printable.2.1
    | _ => trivial
  | card effect =>
    cases effect with
    | gets sign power healthSign health =>
      refine ⟨printable.1, ?_⟩
      rintro rfl
      simpa [weakens] using spares
    | _ => trivial

end SingleEffect

def Card.weakens (c : Card) : Bool :=
  c.effects.any (·.weakens)

theorem Card.only_leavesPower {c : Card} (printable : c.Printable) (spares : c.weakens = false) :
    c.Only SingleEffect.LeavesPower := fun e mem =>
  SingleEffect.leavesPower_of_printable (printable.only e mem)
    (Bool.eq_false_iff.2 fun weak => Bool.false_ne_true
      (spares.symm.trans (List.any_eq_true.2 ⟨e, mem, weak⟩)))

/-- A game in which no card has a bonus that takes power, nor was printed with negative power. -/
structure Unweakened (g : Game) : Prop where
  cards : g.Every CardInstance.Unweakened

namespace Unweakened

variable {g h : Game}

theorem of_cards (unweakened : Unweakened g) (cards : h.cards = g.cards) : Unweakened h :=
  ⟨unweakened.cards.of_cards cards⟩

theorem blind : BlindToTalk Unweakened :=
  fun _ _ _ unweakened => unweakened.of_cards rfl

theorem emit (kind : EventKind) (subject : ObjectRef) :
    Step.Keeps Unweakened (Step.emit kind subject) :=
  fun g unweakened => unweakened.of_cards (Step.emit_cards kind subject g)

theorem modifyCard (unweakened : Unweakened g) {f : CardInstance → CardInstance}
    (same : ∀ i, (f i).card = i.card ∧ (f i).modifiers ⊆ i.modifiers) {c : CardId} :
    Unweakened (g.modifyCard c f) :=
  ⟨unweakened.cards.modifyCard fun i own => own.of_modifiers (same i).1 (same i).2⟩

theorem turned {f : CardInstance → CardInstance} (turns : Turns f) (g : Game) (c : CardId)
    (unweakened : Unweakened g) : Unweakened (g.modifyCard c f) := by
  refine unweakened.modifyCard fun i => ?_
  rw [turns i]
  exact ⟨rfl, List.Subset.refl _⟩

theorem bonus (unweakened : Unweakened g) {m : Modifier} (positive : 0 ≤ m.power) {c : CardId} :
    Unweakened (g.modifyCard c fun i => { i with modifiers := i.modifiers ++ [m] }) := by
  have given : ∀ i : CardInstance, i.Unweakened →
      CardInstance.Unweakened { i with modifiers := i.modifiers ++ [m] } := by
    refine fun i own => ⟨own.printed, fun n mem => ?_⟩
    rcases List.mem_append.1 mem with before | new
    · exact own.bonuses n before
    · exact List.mem_singleton.1 new ▸ positive
  exact ⟨unweakened.cards.modifyCard given⟩

theorem addCard {owner : PlayerId} {template : Card} {z : Zone}
    (stats : ∀ s ∈ template.stats, s.Printable) :
    Step.Keeps Unweakened (Step.addCard owner template z) :=
  fun _ unweakened => ⟨unweakened.cards.addCard fun c => .fresh stats c owner z⟩

theorem moveCard (c : CardId) (goal : Zone) (position : Position) :
    Act.Keeps Unweakened (Act.moveCard c goal position) :=
  Act.keeps_moveCard_of (fun _ => emit _ _) (fun _ _ _ unweakened => unweakened.of_cards rfl)
    (fun carries _ unweakened => unweakened.modifyCard fun i => ⟨(carries i).1, (carries i).2.2⟩)
      position

theorem keptByEffects : KeptByEffects (fun x e => 0 ≤ x ∧ e.LeavesPower) Unweakened where
  saying := blind.saying
  announce kind subject _ := emit kind subject
  exhausted g _ start _ := emit _ _ g start
  send _ := moveCard _ _ _
  spawn allowed _ := Act.keeps_createCard_of (addCard allowed.2) fun c => moveCard c _ _
  damage _ _ n unweakened _ :=
    unweakened.modifyCard (f := fun i => { i with damage := Amount.plus i.damage n })
      fun _ => ⟨rfl, List.Subset.refl _⟩
  bonus allowed _ _ unweakened := unweakened.bonus (m := ⟨_, _⟩) (allowed.2.bonus allowed.1)
  activate _ := turned fun _ => rfl
  deactivate := turned fun _ => rfl
  store _ _ _ unweakened := unweakened.of_cards rfl
  harm _ _ := Step.keeps_loseLife_of (fun _ unweakened => unweakened.of_cards rfl) (emit _ _)
    (emit _ _)
  heal _ _ := Step.keeps_gainLife_of (fun _ unweakened => unweakened.of_cards rfl) (emit _ _)
  shuffle p z := Step.keeps_shuffleZone_of p z (fun _ _ _ unweakened => unweakened.of_cards rfl)
    fun _ _ unweakened => unweakened.of_cards rfl
  random _ _ unweakened := unweakened.of_cards rfl
  resolving _ _ unweakened := unweakened.of_cards rfl

theorem keptByPrints : KeptByPrints SingleEffect.LeavesPower Unweakened :=
  .of_stackless keptByEffects (fun talks => talks.keep blind) turned (fun c => moveCard c .stack)
    (fun _ _ _ unweakened => unweakened.of_cards rfl)
      (fun _ _ unweakened => unweakened.of_cards rfl)
    fun _ unweakened => unweakened.of_cards rfl

theorem create {config : RulesConfig} {entrants : List Entrant}
    (created : Game.create config entrants = .ok g)
    (stats : ∀ e ∈ entrants, ∀ card ∈ e.deck, ∀ s ∈ card.stats, s.Printable) : Unweakened g := by
  refine Game.create_induction created (fun _ => ⟨fun _ _ found => nomatch found⟩)
    fun g owner template _ ⟨e, seat, listed⟩ unweakened => ?_
  exact (addCard (stats e seat template listed) g unweakened).of_cards rfl

end Unweakened

theorem ReachedFrom.power_nonnegative {config : RulesConfig} {entrants : List Entrant}
    {start g : Game} (created : Game.create config entrants = .ok start)
    (read : ∀ e ∈ entrants, ∀ card ∈ e.deck, ∃ text, Grammar.parse text = .ok card)
    (spares : ∀ e ∈ entrants, ∀ card ∈ e.deck, card.weakens = false)
    (course : ReachedFrom start (fun op => op.plays) g) {c : CardId} {i : CardInstance}
    (found : g.card? c = some i) : 0 ≤ i.power := by
  have printable : ∀ e ∈ entrants, ∀ card ∈ e.deck, card.Printable := by
    intro e seat card listed
    obtain ⟨text, parsed⟩ := read e seat card listed
    exact .of_parse parsed
  have only : ∀ e ∈ entrants, ∀ card ∈ e.deck, card.Only SingleEffect.LeavesPower :=
    fun e seat card listed => Card.only_leavesPower (printable e seat card listed)
      (spares e seat card listed)
  have begins := Unweakened.create created fun e seat card listed =>
    (printable e seat card listed).stats
  have unweakened :=
    ((Unweakened.keptByPrints.course SingleEffect.allowsRules_leavesPower).reachedFrom
    ⟨Prints.create created only, begins⟩ course).2
  exact (unweakened.cards c i found).power

end CardGame
