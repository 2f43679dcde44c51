import CardGame.Proofs.Paying

/-!
What is offered and what is allowed. Casting, playing a source and activating check everything
before they change anything, and what they check is what the queries about them check; the one
question in between is for x. So an action that is refused leaves the game as it was, and one that
is offered is carried out.
-/

namespace CardGame

instance decidableEqOutcome : DecidableEq (Except EngineError Unit)
  | .ok _, .ok _ => .isTrue rfl
  | .error e, .error f => decidable_of_iff (e = f) ⟨congrArg Except.error, Except.error.inj⟩
  | .ok _, .error _ => .isFalse nofun
  | .error _, .ok _ => .isFalse nofun

def EngineError.isRefusal : EngineError → Bool
  | notPlayable _ _ => true
  | notYourPriority _ => true
  | insufficientResources _ => true
  | unknownCard _ => true
  | _ => false

def DeclinesX (g : Game) (p : PlayerId) : Prop :=
  ∀ most : Nat, Declines g p (.mode ((List.range (most + 1)).map toString))

/-- An action was refused: at most the player was asked for x. Who declines that is refused only
what was not offered. -/
structure TurnedDown (p : PlayerId) (offered : Prop) (g : Game) (e : EngineError) (h : Game) :
    Prop where
  refusal : e.isRefusal
  talks : Talks p g h
  barred : DeclinesX g p → ¬ offered

theorem TurnedDown.outright {p : PlayerId} {offered : Prop} {g h : Game} {e : EngineError}
    (refusal : e.isRefusal) (same : h = g) (barred : ¬ offered) : TurnedDown p offered g e h :=
  ⟨refusal, same ▸ .refl p g, fun _ => barred⟩

theorem Board.firstFree?_isSome {b : Board} {slot : Nat} (free : b.isFree slot) :
    b.firstFree?.isSome := by
  rw [firstFree?, List.findIdx?_isSome, List.any_eq_true]
  exact ⟨none, List.mem_of_getElem? (slot_of_isFree free), rfl⟩

namespace Game

variable {g : Game} {p : PlayerId} {c : CardId} {i : CardInstance}

theorem isInHand_iff (found : g.card? c = some i) :
    g.isInHand p c ↔ i.zone = .hand ∧ i.owner = p := by
  simp [isInHand, found]

theorem canCast_iff (found : g.card? c = some i) :
    g.canCast p c ↔ g.isInHand p c ∧ g.stack.priority = p ∧
      (i.hasKeyword .ambush || g.isMainTiming p) ∧ (i.isPermanent → g.hasRoom p) ∧
        g.canPay c i.card.costs 0 := by
  simp only [canCast, found, Bool.and_eq_true, beq_iff_eq, Bool.or_eq_true, Bool.not_eq_true',
    and_assoc]
  cases i.isPermanent <;> simp

theorem isInHand_of_canCast (can : g.canCast p c) : g.isInHand p c := by
  cases found : g.card? c with
  | none => simp [canCast, found] at can
  | some i => exact ((canCast_iff found).1 can).1

theorem canPlaySource_iff : g.canPlaySource p c ↔ g.isInHand p c ∧ g.stack.priority = p ∧
    g.isMainTiming p ∧ g.turn.sourcesPlayed < g.config.sourcesPerTurn.toNat ∧ g.hasRoom p := by
  simp [canPlaySource, and_assoc]

theorem isSome_card?_of_usable {index : Nat} (usable : index ∈ g.usableAbilities p c) :
    (g.card? c).isSome := by
  cases found : g.card? c with
  | none => simp [usableAbilities, found] at usable
  | some i => rfl

theorem mem_usableAbilities_iff (found : g.card? c = some i) (index : Nat) :
    index ∈ g.usableAbilities p c ↔ (i.zone = .board ∧ i.controller = p) ∧ g.stack.priority = p ∧
      ∃ a, i.activatedAbilities[index]? = some a ∧ (a.isCost || g.isMainTiming p) ∧
        g.canPayAbility p c a 0 := by
  by_cases ready : i.zone = .board ∧ i.controller = p ∧ g.stack.priority = p
  · simp [usableAbilities, found, ready, List.mem_zipIdx_iff_getElem?]
  · simp only [usableAbilities, found, if_neg ready, List.not_mem_nil, false_iff]
    rintro ⟨place, priority, -⟩
    exact ready ⟨place.1, place.2, priority⟩

theorem usable_iff {a : Activated} {index : Nat} (found : g.card? c = some i)
    (listed : i.activatedAbilities[index]? = some a) :
    index ∈ g.usableAbilities p c ↔ (i.zone = .board ∧ i.controller = p) ∧ g.stack.priority = p ∧
      (a.isCost || g.isMainTiming p) ∧ g.canPayAbility p c a 0 := by
  simp [mem_usableAbilities_iff found, listed]

end Game

namespace Step

variable {g : Game} {p : PlayerId}

theorem ends_chooseX_of_declines (declines : DeclinesX g p) (costs : List CostSymbol) :
    Ends (fun h => h = g) (chooseX p costs) fun x _ => x = 0 := by
  unfold chooseX
  split
  · have known : Ends (fun h => h = g) get fun _ h => h = g := fun _ same => same
    refine known.bind fun known => ?_
    dsimp only
    split
    · refine (ends_chooseOne_of_declines (declines _)).bind fun chosen => ?_
      exact ends_pure fun _ declined => by rw [declined]; rfl
    · exact ends_pure fun _ _ => rfl
  · exact ends_pure fun _ _ => rfl

theorem chooseX_nonnegative (p : PlayerId) (costs : List CostSymbol) :
    Gives (chooseX p costs) (0 ≤ ·) := by
  have zero : (0 : Amount) ≤ 0 := Int64.le_refl 0
  unfold chooseX
  split
  · refine Gives.bind fun g => ?_
    dsimp only
    split
    · refine (chooseOne_selects p _).bind_of fun chosen selected => gives_pure ?_
      cases chosen with
      | none => exact zero
      | some i =>
        have few := selected i rfl
        simp only [Prompt.size, List.length_map, List.length_range, Amount.times] at few
        have most :=
          Int64.toInt_le (Amount.minus (Int64.ofNat (g.player p).essence.length) (fixedCost costs))
        have range : Int64.maxValue.toInt = 2 ^ 63 - 1 := by decide
        rw [Option.map_some, Option.getD_some, Int64.le_iff_toInt_le,
          Int64.toInt_ofNat_of_lt (by omega)]
        exact Int.natCast_nonneg i
    · exact gives_pure zero
  · exact gives_pure zero

theorem ends_chooseX (costs : List CostSymbol) : Ends (fun h => h = g) (chooseX p costs)
    fun x h => 0 ≤ x ∧ Talks p g h ∧ (DeclinesX g p → x = 0) := by
  intro h same
  subst same
  exact ⟨chooseX_nonnegative p costs h, keeps_chooseX (Talks.kept p h) costs h (.refl p h),
    fun declines =>
    ends_chooseX_of_declines declines costs h rfl⟩

end Step

namespace Act

variable {g : Game} {p : PlayerId} {c : CardId} {offered : Prop}

theorem ends_check {condition : Bool} {e : EngineError} (needed : offered → condition)
    (refusal : e.isRefusal) :
    Ends (fun h => h = g) (require condition e) (fun _ h => condition ∧ h = g)
      (TurnedDown p offered g) :=
  ends_require (fun _ same met => ⟨met, same⟩) fun _ same unmet =>
    .outright refusal same fun offer => Bool.false_ne_true (unmet.symm.trans (needed offer))

theorem ends_cardOffered (needed : offered → (g.card? c).isSome) :
    Ends (fun h => h = g) (card c) (fun i h => g.card? c = some i ∧ h = g)
      (TurnedDown p offered g) := by
  refine ends_card (fun h i same found => ⟨same ▸ found, same⟩) fun h same missing =>
    .outright rfl same fun offer => ?_
  have found := needed offer
  rw [← same, missing] at found
  exact nomatch found

theorem ends_inHand (needed : offered → g.isInHand p c) :
    Ends (fun h => h = g) (inHand p c)
      (fun i h => (g.card? c = some i ∧ i.zone = .hand ∧ i.owner = p) ∧ h = g)
      (TurnedDown p offered g) := by
  refine (ends_cardOffered fun offer => ?_).bind fun i => .given fun found => ?_
  · exact (Option.any_eq_true_iff_get _ _).1 (needed offer) |>.1
  have held : offered → i.zone == .hand && i.owner == p := fun offer => by
    simpa [Game.isInHand, found] using needed offer
  refine (ends_check held rfl).bind fun _ => ends_pure fun h passed => ⟨⟨found, ?_⟩, passed.2⟩
  simpa using passed.1

theorem ends_checkPriority (needed : offered → g.stack.priority = p) :
    Ends (fun h => h = g) (checkPriority p) (fun _ h => g.stack.priority = p ∧ h = g)
      (TurnedDown p offered g) := by
  refine ends_readGiven.bind fun known => .given fun same => ?_
  subst same
  have checked : Ends (fun h => h = known)
    (require (known.stack.priority == p) (.notYourPriority p))
      (fun _ h => (known.stack.priority == p) = true ∧ h = known) (TurnedDown p offered known) :=
    ends_check (fun offer => beq_iff_eq.2 (needed offer)) rfl
  exact checked.after fun _ _ passed => ⟨beq_iff_eq.1 passed.1, passed.2⟩

theorem ends_fieldFor {field : Option Nat} (needed : offered → field = none ∧ g.hasRoom p) :
    Ends (fun h => h = g) (fieldFor p c field) (fun _ h => g.hasRoom p ∧ h = g)
      (TurnedDown p offered g) := by
  refine ends_readGiven.bind fun known => .given fun same => ?_
  subst same
  dsimp only
  split
  · next slot =>
    refine (ends_check (fun offer => nomatch (needed offer).1) rfl).bind fun _ =>
      ends_pure fun h passed => ⟨Board.firstFree?_isSome passed.1, passed.2⟩
  · split
    · next slot free => exact ends_pure fun h same => ⟨Option.isSome_of_eq_some free, same⟩
    · next full =>
      refine ends_throw fun h same => .outright rfl same fun offer => ?_
      have room := (needed offer).2
      rw [Game.hasRoom, full] at room
      exact nomatch room

theorem ends_affordableX {affordable : Game → Amount → Bool}
    (table : ∀ {h}, SameTable g h → ∀ x, affordable h x = affordable g x)
    (needed : offered → affordable g 0) (costs : List CostSymbol) :
    Ends (fun h => h = g) (affordableX p c costs affordable)
      (fun x h => (affordable g 0 ∧ 0 ≤ x) ∧ affordable h x ∧ Talks p g h)
      (TurnedDown p offered g) := by
  refine ends_readGiven.bind fun known => .given fun same => ?_
  subst same
  refine (ends_check needed rfl).bind fun _ => .given fun first => ?_
  refine (ends_lift (Step.ends_chooseX costs)).bind fun x => .given fun positive => ?_
  have read : Ends (fun h => Talks p known h ∧ (DeclinesX known p → x = 0)) (getThe Game)
      (fun later h => later = h ∧ Talks p known h ∧ (DeclinesX known p → x = 0))
      (TurnedDown p offered known) := ends_readGame
  refine read.bind fun later => ?_
  refine Ends.bind (Q := fun _ h => affordable h x ∧ Talks p known h) ?_ fun _ =>
    ends_pure fun h passed => ⟨⟨first, positive⟩, passed⟩
  refine ends_require (fun h start met => ⟨start.1 ▸ met, start.2.1⟩) fun h start unmet =>
    ⟨rfl, start.2.1, fun declines => ?_⟩
  rw [start.1, table start.2.1.sameTable, start.2.2 declines, first] at unmet
  exact nomatch unmet

theorem knows_of_talks {h : Game} {i : CardInstance} (agree : ZonesAgree g)
    (found : g.card? c = some i) (talks : Talks p g h) : Knows [c] h := by
  refine ⟨agree.of_frame talks.sameTable.players talks.sameTable.cards, fun d mem => ?_⟩
  rw [List.mem_singleton.1 mem, talks.sameTable.card?, found]
  rfl

/-- What casting comes to: it is refused and changes nothing, or it was offered and the card is paid
for and put on the stack. Before that the player is asked for x at most. -/
theorem ends_cast_of {field : Option Nat} {Q : Unit → Game → Prop} {F : EngineError → Game → Prop}
    (needed : offered → field = none ∧ g.canCast p c)
    (refused : ∀ e h, TurnedDown p offered g e h → F e h)
    (played : ∀ i slot x, g.card? c = some i → g.canCast p c → 0 ≤ x →
      Ends (fun h => Talks p g h ∧ h.canPay c i.card.costs x) (castFor p c i slot x) Q F) :
    Ends (fun h => h = g) (cast p c field) Q F := by
  refine ((ends_inHand fun offer => Game.isInHand_of_canCast (needed offer).2).failing refused).bind
    fun i =>
    .given fun ⟨found, held⟩ => ?_
  have offer := Game.canCast_iff (p := p) found
  have inHand := (Game.isInHand_iff (p := p) found).2 held
  refine ((ends_checkPriority fun may => (offer.1 (needed may).2).2.1).failing refused).bind
    fun _ =>
    .given fun priority => ?_
  refine ends_readGiven.bind fun known => .given fun same => ?_
  subst same
  refine ((ends_check (fun may => (offer.1 (needed may).2).2.2.1) rfl).failing refused).bind
    fun _ =>
    .given fun timing => ?_
  have paying : ∀ slot, (i.isPermanent → known.hasRoom p) → Ends (fun h => h = known) (do
      let x ← affordableX p c i.card.costs fun g x => g.canPay c i.card.costs x
      castFor p c i slot x) Q F := by
    intro slot room
    refine ((ends_affordableX (fun same x => same.canPay c i.card.costs x)
      (fun may => (offer.1 (needed may).2).2.2.2.2) i.card.costs).failing refused).bind fun x =>
        .given fun ⟨affordable, positive⟩ => ?_
    exact (played i slot x found (offer.2 ⟨inHand, priority, timing, room, affordable⟩)
      positive).starting
      fun _ passed => ⟨passed.2, passed.1⟩
  dsimp only
  split
  · next permanent =>
    rw [map_eq_pure_bind]
    refine Ends.bind (Q := fun _ h => known.hasRoom p ∧ h = known) ?_ fun slot =>
      .given fun room => paying slot fun _ => room
    refine ((ends_fieldFor fun may => ⟨(needed may).1,
      (offer.1 (needed may).2).2.2.2.1 permanent⟩).failing
      refused).bind fun _ => ends_pure fun _ passed => passed
  · next spell =>
    exact (ends_pure fun _ same => same).bind fun slot => paying slot fun permanent =>
      absurd permanent spell

theorem ends_cast (agree : ZonesAgree g) (p : PlayerId) (c : CardId) (field : Option Nat) :
    Ends (fun h => h = g) (cast p c field) (fun _ _ => g.canCast p c)
      (TurnedDown p (field = none ∧ g.canCast p c) g) := by
  refine ends_cast_of (fun offer => offer) (fun _ _ turned => turned) fun i slot x found can _ => ?_
  exact (ends_castFor p (List.mem_singleton_self c) i slot x).weaken
    (fun h start => ⟨knows_of_talks agree found start.1, start.2⟩)
      (fun _ _ _ => can) fun _ _ failed => failed

/-- What playing a card as a source does once it is allowed. -/
def enterAsSource (c : CardId) : Act Unit := do
  changeCard c fun i => { i with flipped := !i.card.hasKind .source, activated := true }
  moveCard c .board .top
  modifyThe Game fun g =>
    { g with turn := { g.turn with sourcesPlayed := g.turn.sourcesPlayed + 1 } }
  modifyThe Game (·.modifyStack (·.acted))
  Step.emit .play (.card c)

theorem ends_playSource_of {Q : Unit → Game → Prop} {F : EngineError → Game → Prop}
    (refused : ∀ e h, TurnedDown p (g.canPlaySource p c) g e h → F e h)
    (entered : ∀ i, g.card? c = some i → i.zone = .hand ∧ i.owner = p → g.canPlaySource p c →
      Ends (fun h => h = g) (enterAsSource c) Q F) :
    Ends (fun h => h = g) (playSource p c) Q F := by
  have offer := Game.canPlaySource_iff (g := g) (p := p) (c := c)
  refine ((ends_inHand fun can => (offer.1 can).1).failing refused).bind fun i =>
    .given fun ⟨found, held⟩ => ?_
  have inHand := (Game.isInHand_iff (p := p) found).2 held
  refine ((ends_checkPriority fun can => (offer.1 can).2.1).failing refused).bind fun _ =>
    .given fun priority => ?_
  refine ends_readGiven.bind fun known => .given fun same => ?_
  subst same
  refine ((ends_check (fun can => (offer.1 can).2.2.1) rfl).failing refused).bind fun _ =>
    .given fun timing => ?_
  refine ((ends_check (fun can => decide_eq_true (offer.1 can).2.2.2.1) rfl).failing refused).bind
    fun _ =>
    .given fun sources => ?_
  refine ((ends_check (fun can => (offer.1 can).2.2.2.2) rfl).failing refused).bind fun _ =>
    .given fun room => ?_
  exact entered i found held (offer.2 ⟨inHand, priority, timing, of_decide_eq_true sources, room⟩)

theorem ends_playSource (agree : ZonesAgree g) (p : PlayerId) (c : CardId) :
    Ends (fun h => h = g) (playSource p c) (fun _ _ => g.canPlaySource p c)
      (TurnedDown p (g.canPlaySource p c) g) := by
  refine ends_playSource_of (fun _ _ turned => turned) fun i found held can => ?_
  have room := (Game.canPlaySource_iff.1 can).2.2.2.2
  let turned : CardInstance → CardInstance := fun i =>
    { i with flipped := !i.card.hasKind .source, activated := true }
  let marked : Game := g.modifyCard c turned
  have record : marked.card? c = some (turned i) := by
    rw [Game.card?_modifyCard_self, found]
    rfl
  have knows : Knows [c] marked :=
    (Knows.kept [c]).mark (fun _ => rfl) g c (knows_of_talks agree found (.refl p g))
  have changed : Ends (fun h => h = g) (changeCard c turned) (fun _ h => h = marked)
      (TurnedDown p (g.canPlaySource p c) g) :=
    (ends_readCard fun h same => same ▸ found).bind fun _ => ends_modifyThe fun h start =>
      start.2 ▸ rfl
  have moved : Ends (fun h => h = marked) (moveCard c .board .top) (fun _ _ => True)
      (TurnedDown p (g.canPlaySource p c) g) := by
    refine ((ends_moveCard (P := fun h => h = marked) (i := turned i) (by simp)
      (fun h same => same ▸ knows) (List.mem_singleton_self c) (fun h same => same ▸ record)
      fun _ boarded => ?_).after fun _ _ _ => trivial).failing fun e h refused => ?_
    · exact nomatch held.1.symm.trans boarded
    · -- the card is with its owner, who had a free slot
      have full := refused.full
      rw [refused.start, show (turned i).controller = p from
        ((agree c).housed i found).controlled.trans held.2] at full
      rw [Game.hasRoom, show (g.player p).board.firstFree? = none from full] at room
      exact nomatch room
  refine changed.bind fun _ => moved.bind fun _ => ?_
  refine (ends_modifyThe (Q := fun _ _ => True) fun _ _ => trivial).bind fun _ => ?_
  refine (ends_modifyThe (Q := fun _ _ => True) fun _ _ => trivial).bind fun _ => ?_
  exact ends_lift fun _ _ => can

theorem ends_activate_of {index : Nat} {Q : Unit → Game → Prop} {F : EngineError → Game → Prop}
    (needed : offered → index ∈ g.usableAbilities p c)
    (refused : ∀ e h, TurnedDown p offered g e h → F e h)
    (used : ∀ i a x, g.card? c = some i → i.zone = .board → i.activatedAbilities[index]? = some a →
      index ∈ g.usableAbilities p c → g.canPayAbility p c a x → 0 ≤ x →
        Ends (Talks p g) (activateFor p c a x) Q F) :
    Ends (fun h => h = g) (activate p c index) Q F := by
  refine ((ends_cardOffered fun offer => Game.isSome_card?_of_usable (needed offer)).failing
    refused).bind
    fun i => .given fun found => ?_
  have offer := Game.mem_usableAbilities_iff (p := p) found index
  have placed : index ∈ g.usableAbilities p c →
      i.zone == .board && i.controller == p := fun can => by
    simpa using (offer.1 can).1
  refine ((ends_check (fun may => placed (needed may)) rfl).failing refused).bind fun _ =>
    .given fun place => ?_
  replace place : i.zone = .board ∧ i.controller = p := by simpa using place
  split
  · next missing =>
    refine ends_throw fun h same => refused _ h (.outright rfl same fun may => ?_)
    obtain ⟨-, -, a, listed, -⟩ := offer.1 (needed may)
    exact nomatch missing.symm.trans listed
  · next a listed =>
    have offer := Game.usable_iff (p := p) found listed
    refine ((ends_checkPriority fun may => (offer.1 (needed may)).2.1).failing refused).bind
      fun _ =>
      .given fun priority => ?_
    refine ends_readGiven.bind fun known => .given fun same => ?_
    subst same
    refine ((ends_check (fun may => (offer.1 (needed may)).2.2.1) rfl).failing refused).bind
      fun _ =>
      .given fun timing => ?_
    refine ((ends_affordableX (fun same x => same.canPayAbility p c a x)
      (fun may => (offer.1 (needed may)).2.2.2) a.resourceCosts).failing refused).bind fun x =>
        .given fun ⟨affordable, positive⟩ h passed => ?_
    have payable := (passed.2.sameTable.canPayAbility p c a x).symm.trans passed.1
    exact used i a x found place.1 listed (offer.2 ⟨place, priority, timing, affordable⟩) payable
      positive
      h passed.2

theorem keeps_cast_of {P : Game → Prop} (kept : ∀ {g h}, Talks p g h → P g → P h)
    (played : ∀ g i slot x, P g → g.card? c = some i → 0 ≤ x →
      Ends (Talks p g) (castFor p c i slot x) (fun _ => P) fun _ => P) (field : Option Nat) :
    Keeps P (cast p c field) := by
  intro g start
  have ends : Ends (fun h => h = g) (cast p c field) (fun _ => P) fun _ => P := by
    refine ends_cast_of (fun offer : False => offer.elim)
      (fun _ _ turned => kept turned.talks start) fun i slot x found _ positive => ?_
    exact (played g i slot x start found positive).starting fun _ asked => asked.1
  exact ends.leads.left (fun _ _ kept => kept) (fun _ kept => kept) rfl

theorem keeps_activate_of {P : Game → Prop} (kept : ∀ {g h}, Talks p g h → P g → P h)
    (used : ∀ g i a x, P g → g.card? c = some i → i.zone = .board →
      a ∈ i.activatedAbilities → 0 ≤ x →
      Ends (Talks p g) (activateFor p c a x) (fun _ => P) fun _ => P) (index : Nat) :
    Keeps P (activate p c index) := by
  intro g start
  have ends : Ends (fun h => h = g) (activate p c index) (fun _ => P) fun _ => P := by
    refine ends_activate_of (fun offer : False => offer.elim)
      (fun _ _ turned => kept turned.talks start) fun i a x found boarded listed _ _ positive => ?_
    exact used g i a x start found boarded (List.mem_of_getElem? listed) positive
  exact ends.leads.left (fun _ _ kept => kept) (fun _ kept => kept) rfl

theorem ends_activate (agree : ZonesAgree g) (p : PlayerId) (c : CardId) (index : Nat) :
    Ends (fun h => h = g) (activate p c index) (fun _ _ => index ∈ g.usableAbilities p c)
      fun e h => TurnedDown p (index ∈ g.usableAbilities p c) g e h ∨
        index ∈ g.usableAbilities p c ∧ Crowded e ∧ ∃ i a, g.card? c = some i ∧
          i.activatedAbilities[index]? = some a ∧ a.shufflesOntoBoard := by
  refine ends_activate_of (fun offer => offer)
    (fun _ _ => .inl) fun i a x found _ listed can payable _ => ?_
  refine (ends_activateFor p (List.mem_singleton_self c) a x).weaken
    (fun h talks => ⟨knows_of_talks agree found talks, ?_⟩) (fun _ _ _ => can) fun e h failed =>
      .inr ⟨can, failed.2, i, a, found, listed, failed.1⟩
  exact (talks.sameTable.canPay c a.resourceCosts x).trans (Bool.and_eq_true_iff.1 payable).1

theorem run_of_failed {act : Act Unit} {e : EngineError}
    (failed : (StateT.run (ExceptT.run act) g).1 = .error e) :
    StateT.run (ExceptT.run act) g = (.error e, (StateT.run (ExceptT.run act) g).2) :=
  run_of_result failed

theorem Ends.offered_iff {act : Act Unit} {F : EngineError → Game → Prop}
    (ends : Ends (fun h => h = g) act (fun _ _ => offered) F) (barred : ∀ e h, F e h → ¬ offered) :
    offered ↔ ∃ h, StateT.run (ExceptT.run act) g = (.ok (), h) := by
  constructor
  · intro offer
    cases ran : StateT.run (ExceptT.run act) g with
    | mk result h =>
      cases result with
      | ok _ => exact ⟨h, rfl⟩
      | error e => exact absurd offer (barred e h (ends.failure rfl ran))
  · rintro ⟨h, ran⟩
    exact ends.success rfl ran

end Act

namespace Reached

variable {g : Game} (reached : Reached g) (p : PlayerId) (c : CardId)
include reached

theorem canCast_iff (declines : DeclinesX g p) :
    g.canCast p c ↔ ∃ h, StateT.run (ExceptT.run (Act.cast p c none)) g = (.ok (), h) :=
  (Act.ends_cast (.of_reached reached) p c none).offered_iff fun _ _ turned can =>
    turned.barred declines ⟨rfl, can⟩

theorem canPlaySource_iff (declines : DeclinesX g p) :
    g.canPlaySource p c ↔ ∃ h, StateT.run (ExceptT.run (Act.playSource p c)) g = (.ok (), h) :=
  (Act.ends_playSource (.of_reached reached) p c).offered_iff fun _ _ turned =>
    turned.barred declines

theorem mem_usableAbilities_iff (declines : DeclinesX g p) (index : Nat) :
    index ∈ g.usableAbilities p c ↔
      ∀ e h, StateT.run (ExceptT.run (Act.activate p c index)) g = (.error e, h) →
        ¬ e.isRefusal := by
  have ends := Act.ends_activate (.of_reached reached) p c index
  constructor
  · intro usable e h ran
    rcases ends.failure rfl ran with turned | ⟨-, ⟨d, z, crowded⟩, -⟩
    · exact absurd usable (turned.barred declines)
    · rw [crowded]
      exact Bool.false_ne_true
  · intro passes
    cases ran : StateT.run (ExceptT.run (Act.activate p c index)) g with
    | mk result h =>
      cases result with
      | ok _ => exact ends.success rfl ran
      | error e =>
        rcases ends.failure rfl ran with turned | ⟨usable, -⟩
        · exact absurd turned.refusal (passes e h ran)
        · exact usable

end Reached

/-- What is offered to a player who declines to choose x is what is allowed. -/
theorem Reached.offers_allowed {g : Game} (reached : Reached g) {p : PlayerId}
    (declines : DeclinesX g p) (c : CardId) :
    (g.canCast p c ↔ ∃ h, StateT.run (ExceptT.run (Act.cast p c none)) g = (.ok (), h)) ∧
    (∀ slot h, StateT.run (ExceptT.run (Act.cast p c (some slot))) g = (.ok (), h) →
      g.canCast p c) ∧
    (g.canPlaySource p c ↔ ∃ h, StateT.run (ExceptT.run (Act.playSource p c)) g = (.ok (), h)) ∧
    ∀ index, index ∈ g.usableAbilities p c ↔
      ∀ e h, StateT.run (ExceptT.run (Act.activate p c index)) g = (.error e, h) → ¬ e.isRefusal :=
  ⟨reached.canCast_iff p c declines,
    fun slot _ ran => (Act.ends_cast (.of_reached reached) p c (some slot)).success rfl ran,
    reached.canPlaySource_iff p c declines, reached.mem_usableAbilities_iff p c declines⟩

theorem Strategy.declinesX_of_pass {g : Game} {p : PlayerId}
    (passes : (g.choosers.get? p).map (·.strategy) = some .pass) : DeclinesX g p := by
  intro most chooser found i
  rw [found] at passes
  rw [Chooser.ask, show chooser.strategy = .pass from Option.some.inj passes]
  exact nofun

theorem offers_allowed_afterDraw :
    ∃ start, Game.create {} [⟨[.blank "Squire"], .pass⟩, ⟨[], .pass⟩] = .ok start ∧
      let g := Operation.performAll start [.draw ⟨0⟩ 1, .enterPhase .play]
      DeclinesX g ⟨0⟩ ∧ g.canCast ⟨0⟩ ⟨0⟩ ∧
        ∃ h, StateT.run (ExceptT.run (Act.cast ⟨0⟩ ⟨0⟩ none)) g = (.ok (), h) := by
  refine ⟨_, rfl, Strategy.declinesX_of_pass rfl, by decide +kernel, ?_⟩
  refine ((Reached.offers_allowed ?_ (Strategy.declinesX_of_pass rfl) ⟨0⟩).1).1 (by decide +kernel)
  exact reached_performAll {} [⟨[.blank "Squire"], .pass⟩, ⟨[], .pass⟩] rfl _

/-- Casting a card and playing a source change nothing when they fail: at most the player was
asked. -/
theorem Reached.talks_of_failed {g h : Game} (reached : Reached g) (p : PlayerId) (c : CardId)
    {e : EngineError}
    (failed : (∃ field, StateT.run (ExceptT.run (Act.cast p c field)) g = (.error e, h)) ∨
      StateT.run (ExceptT.run (Act.playSource p c)) g = (.error e, h)) : Talks p g h := by
  rcases failed with ⟨field, ran⟩ | ran
  · exact ((Act.ends_cast (.of_reached reached) p c field).failure rfl ran).talks
  · exact ((Act.ends_playSource (.of_reached reached) p c).failure rfl ran).talks

def Card.spring : Card :=
  ((blank "Spring").withCost (.essence .cup)).withKind ⟨.source, false⟩

def Card.flood : Card :=
  ((blank "Flood").withCost (.generic .x)).withCost (.generic .x)

/-- Who has one essence and chooses one for x is refused a card that costs x twice, and keeps the
essence. -/
theorem talks_of_failed_flood :
    ∃ start, Game.create {} [⟨[.spring, .flood], fun _ _ => .pick 1⟩, ⟨[], .pass⟩] = .ok start ∧
      let g := Operation.performAll start [.draw ⟨0⟩ 2, .enterPhase .play, .playSource ⟨0⟩ ⟨0⟩,
        .enterPhase .start, .enterPhase .play, .activate ⟨0⟩ ⟨0⟩ 0]
      let refused := StateT.run (ExceptT.run (Act.cast ⟨0⟩ ⟨1⟩ none)) g
      g.canCast ⟨0⟩ ⟨1⟩ ∧ (g.player ⟨0⟩).essence = [.colored .cup] ∧
        refused.1 = .error (.insufficientResources ⟨1⟩) ∧ Talks ⟨0⟩ g refused.2 := by
  refine ⟨_, rfl, by decide +kernel, by decide +kernel, by decide +kernel, ?_⟩
  refine Reached.talks_of_failed ?_ ⟨0⟩ ⟨1⟩ (e := .insufficientResources ⟨1⟩)
    (.inl ⟨none, Act.run_of_failed (by decide +kernel)⟩)
  exact reached_performAll {} [⟨[.spring, .flood], fun _ _ => .pick 1⟩, ⟨[], .pass⟩] rfl _

/-- Activating changes nothing when it fails, unless what failed is that the ability, once paid for,
shuffles a card into a board that is full. -/
theorem Reached.talks_or_crowded {g h : Game} (reached : Reached g) (p : PlayerId) (c : CardId)
    (index : Nat) {e : EngineError}
    (failed : StateT.run (ExceptT.run (Act.activate p c index)) g = (.error e, h)) :
    Talks p g h ∨ index ∈ g.usableAbilities p c ∧ Act.Crowded e ∧
      ∃ i a, g.card? c = some i ∧ i.activatedAbilities[index]? = some a ∧ a.shufflesOntoBoard :=
  ((Act.ends_activate (.of_reached reached) p c index).failure rfl failed).imp_left (·.talks)

/-- A card that gives essence and then shuffles every card into a board. -/
def Card.portal : Card :=
  (blank "Portal").withAbility (.activated ⟨[.symbol .activate], ⟨[.player none false
    [.add [.essence .cup], .shuffle (some [.filter ⟨none, [], none, none, []⟩]) [.board]]]⟩⟩)

/-- A portal in the only slot of a board fails, and the essence that it gave stays. -/
theorem talks_or_crowded_portal :
    ∃ start, Game.create { boardSize := 1 } [⟨[.portal, .blank "Squire"], .pass⟩, ⟨[], .pass⟩] =
        .ok start ∧
      let g := Operation.performAll start
        [.draw ⟨0⟩ 2, .enterPhase .play, .cast ⟨0⟩ ⟨0⟩ none, .resolveTop]
      let failed := StateT.run (ExceptT.run (Act.activate ⟨0⟩ ⟨0⟩ 0)) g
      failed.1 = .error (.illegalTransition ⟨1⟩ .hand .board .boardFull) ∧
        (g.player ⟨0⟩).essence = [] ∧ (failed.2.player ⟨0⟩).essence = [.colored .cup] ∧
        (Talks ⟨0⟩ g failed.2 ∨ 0 ∈ g.usableAbilities ⟨0⟩ ⟨0⟩ ∧
          Act.Crowded (.illegalTransition ⟨1⟩ .hand .board .boardFull) ∧
          ∃ i a, g.card? ⟨0⟩ = some i ∧ i.activatedAbilities[0]? = some a ∧
            a.shufflesOntoBoard) := by
  refine ⟨_, rfl, by decide +kernel, by decide +kernel, by decide +kernel, ?_⟩
  refine Reached.talks_or_crowded ?_ ⟨0⟩ ⟨0⟩ 0 (Act.run_of_failed (by decide +kernel))
  exact reached_performAll { boardSize := 1 } [⟨[.portal, .blank "Squire"], .pass⟩,
    ⟨[], .pass⟩] rfl _

end CardGame
