import CardGame.Proofs.Containers
import CardGame.Proofs.Identity

/-!
What resolving effects and paying costs are made of. Every effect is a sequence of a few changes:
emissions, moves and creations of cards, marks on cards, accounts of players, shuffles, and
questions. A property that each of them keeps is kept by every effect, every payment and every
resolution, on success as on failure.
-/

namespace CardGame

def Marks (f : CardInstance → CardInstance) : Prop :=
  ∀ i, f i = { i with
    activated := (f i).activated, flipped := (f i).flipped, damage := (f i).damage,
    modifiers := (f i).modifiers }

/-- A change of which side of a card is up and of whether it is ready. -/
def Turns (f : CardInstance → CardInstance) : Prop :=
  ∀ i, f i = { i with activated := (f i).activated, flipped := (f i).flipped }

theorem Turns.marks {f : CardInstance → CardInstance} (turns : Turns f) : Marks f := by
  intro i
  rw [turns i]

structure Accounts (f : Player → Player) : Prop where
  frame : ∀ s, f s = { s with
    life := (f s).life, essence := (f s).essence, extraTurns := (f s).extraTurns }
  capacity : ∀ s, s.essence.length ≤ EssencePool.capacity →
    (f s).essence.length ≤ EssencePool.capacity

structure Stores (f : Player → Player) : Prop where
  frame : ∀ s, f s = { s with essence := (f s).essence, extraTurns := (f s).extraTurns }
  capacity : ∀ s, s.essence.length ≤ EssencePool.capacity →
    (f s).essence.length ≤ EssencePool.capacity

def Shelves (f : Player → Player) : Prop :=
  ∀ s, f s = { s with
    deck := (f s).deck, hand := (f s).hand, pile := (f s).pile, board := (f s).board }

/-- A change of what the zones of a player hold when a card goes to a zone: no other zone gets a
card. -/
structure ShelvesFor (goal : Zone) (f : Player → Player) : Prop where
  shelves : Shelves f
  deck : goal ≠ .deck → ∀ s, (f s).deck.cards ⊆ s.deck.cards

/-- A change of a card that is on its way to a zone. -/
def Carries (goal : Zone) (f : CardInstance → CardInstance) : Prop :=
  ∀ i, (f i).card = i.card ∧ ((f i).zone = i.zone ∨ (f i).zone = goal) ∧
    (f i).modifiers ⊆ i.modifiers

theorem shelves_modifyBoard (f : Board → Board) : Shelves fun s => { s with board := f s.board } :=
  fun _ => rfl

theorem shelves_modifyPile (z : Zone) (f : Pile → Pile) : Shelves (·.modifyPile z f) := by
  intro s
  cases z <;> rfl

namespace ShelvesFor

theorem modifyBoard (goal : Zone) (f : Board → Board) :
    ShelvesFor goal fun s => { s with board := f s.board } :=
  ⟨shelves_modifyBoard f, fun _ _ => List.Subset.refl _⟩

theorem remove (goal z : Zone) (c : CardId) : ShelvesFor goal (·.modifyPile z (·.remove c)) := by
  refine ⟨shelves_modifyPile z _, fun _ s => ?_⟩
  cases z with
  | deck => exact List.erase_subset
  | _ => exact List.Subset.refl _

theorem insert (goal : Zone) (c : CardId) (position : Position) :
    ShelvesFor goal (·.modifyPile goal (·.insert c position)) := by
  refine ⟨shelves_modifyPile goal _, fun other s => ?_⟩
  cases goal with
  | deck => exact absurd rfl other
  | _ => exact List.Subset.refl _

end ShelvesFor

theorem Accounts.ofLife (f : Player → Amount) : Accounts fun s => { s with life := f s } :=
  ⟨fun _ => rfl, fun _ room => room⟩

namespace Stores

theorem accounts {f : Player → Player} (stores : Stores f) : Accounts f :=
  ⟨fun s => by rw [stores.frame s], stores.capacity⟩

theorem ofTurns (f : Player → Nat) : Stores fun s => { s with extraTurns := f s } :=
  ⟨fun _ => rfl, fun _ room => room⟩

theorem noEssence : Stores fun s => { s with essence := [] } :=
  ⟨fun _ => rfl, fun _ _ => Nat.zero_le _⟩

theorem addEssence (essence : List CostSymbol) (x : Amount) :
    Stores fun s => { s with essence := essence.foldl (fun pool c => pool.add c x) s.essence } := by
  refine ⟨fun _ => rfl, fun s => ?_⟩
  generalize s.essence = pool
  intro room
  exact List.foldlRecOn (motive := fun pool => pool.length ≤ EssencePool.capacity) essence _ room
    fun pool room c _ => EssencePool.length_add_le pool c x room

theorem pay (costs : List CostSymbol) (x : Amount) :
    Stores fun s => { s with essence := (s.essence.pay costs x).2 } :=
  ⟨fun _ => rfl, fun s room => Nat.le_trans (s.essence.pay_sublist costs x).length_le room⟩

theorem spend (costs : List CostSymbol) (x : Amount) :
    Stores fun s => match s.essence.pay costs x with
      | (true, pool) => { s with essence := pool }
      | (false, _) => s := by
  refine ⟨fun s => ?_, fun s room => ?_⟩
  · split <;> rfl
  · have taken := Nat.le_trans (s.essence.pay_sublist costs x).length_le room
    split
    · next pool paid =>
      rw [paid] at taken
      exact taken
    · exact room

end Stores

def EventKind.isOfBoard : EventKind → Bool
  | .enterBoard => true
  | .leaveBoard => true
  | _ => false

def EventKind.isPlain : EventKind → Bool
  | .lose => false
  | kind => !kind.isOfBoard

theorem EventKind.not_isOfBoard_of_isPlain {kind : EventKind} (plain : kind.isPlain) :
    ¬kind.isOfBoard := by
  cases kind with
  | enterBoard => exact absurd plain Bool.false_ne_true
  | leaveBoard => exact absurd plain Bool.false_ne_true
  | _ => exact Bool.false_ne_true

def PlayerEffect.sendsTo (z : Zone) : PlayerEffect → Bool
  | .shuffle _ zone => zone.first == z
  | .put _ _ zone _ _ _ => zone.first == z
  | _ => false

def SingleEffect.sendsTo (z : Zone) : SingleEffect → Bool
  | .player e => e.sendsTo z
  | .card _ => false

def PlayerEffect.stacksCards : PlayerEffect → Bool
  | .shuffle _ zone => zone.first == .stack
  | .put _ _ zone _ _ _ => zone.first == .stack
  | _ => false

def SingleEffect.stacksCards : SingleEffect → Bool
  | .player e => e.stacksCards
  | .card _ => false

theorem SingleEffect.sendsTo_stack (e : SingleEffect) : e.sendsTo .stack = e.stacksCards := by
  cases e with
  | player e => cases e <;> rfl
  | card e => rfl

/-- A card that its record or the slots say to be on a board. -/
def Game.OnBoard (g : Game) (c : CardId) : Prop :=
  (∃ i, g.card? c = some i ∧ i.zone = .board) ∨ ∃ p, c ∈ (g.player p).board.cards

namespace Step

variable {P : Game → Prop} {p : PlayerId}

theorem keeps_loseLife_with {n : Amount}
    (taken : ∀ g, P g → P (g.modifyPlayer p fun s => { s with life := Amount.minus s.life n }))
    (hurt : Keeps P (emit .loseLife (.player p)))
    (lost : ∀ g, P g → (g.player p).lost = false → P (StateT.run (emit .lose (.player p)) g).2) :
    Keeps P (loseLife p n) := by
  have taken : Keeps P (modify (·.modifyPlayer p fun s =>
      { s with life := Amount.minus s.life n }) : Step Unit) := keeps_modify taken
  have read : Ends P get fun known g => known = g ∧ P g := ends_get fun g start => ⟨rfl, start⟩
  refine taken.bind fun _ => hurt.bind fun _ => ?_
  change Ends P _ fun _ => P
  refine read.bind fun known g => ?_
  rintro ⟨rfl, start⟩
  dsimp only
  split
  · next dead => exact lost known start (by simpa using dead.2)
  · exact start

theorem keeps_loseLife_of {n : Amount}
    (taken : ∀ g, P g → P (g.modifyPlayer p fun s => { s with life := Amount.minus s.life n }))
    (hurt : Keeps P (emit .loseLife (.player p))) (lost : Keeps P (emit .lose (.player p))) :
    Keeps P (loseLife p n) :=
  keeps_loseLife_with taken hurt fun g start _ => lost g start

theorem keeps_gainLife_of {n : Amount}
    (given : ∀ g, P g → P (g.modifyPlayer p fun s => { s with life := Amount.plus s.life n }))
    (healed : Keeps P (emit .gainLife (.player p))) : Keeps P (gainLife p n) := by
  have given : Keeps P (modify (·.modifyPlayer p fun s =>
      { s with life := Amount.plus s.life n }) : Step Unit) := keeps_modify given
  exact given.bind fun _ => healed

end Step

/-- A property that applying effects keeps, as long as they may be applied with the value of x that
they have. Players are asked for cards and for discards, and shown cards. Events about a board come
with moves only, and news of losing with a lack of life or of cards to draw. Cards are moved to the
stack and into decks only by effects that say so, tokens have the stats that an effect gives them,
damage is marked on cards on a board only, life is gained only where an effect says so; a bonus is
given and a card is activated wherever the card is. -/
structure KeptByApplying (may : Amount → SingleEffect → Prop) (P : Game → Prop) : Prop where
  pickCard : ∀ p options, Step.Keeps P (Step.chooseOne p (.card options))
  pickDiscards : ∀ p options count, Step.Keeps P (Step.chooseMany p (.discard options count) count)
  reveal : ∀ p cards, Step.Keeps P (Step.reveal p cards)
  announce : ∀ kind subject, kind.isPlain → Step.Keeps P (Step.emit kind subject)
  exhausted : ∀ g p, P g → (g.player p).deck.top? = none →
    P (StateT.run (Step.emit .lose (.player p)) g).2
  send : ∀ {c goal position}, (goal = .stack ∨ goal = .deck → ∃ x e, may x e ∧ e.sendsTo goal) →
    Act.Keeps P (Act.moveCard c goal position)
  spawn : ∀ {x count stats kinds subtypes}, may x (.player (.token count stats kinds subtypes)) →
    ∀ owner, Act.Keeps P (Act.createCard owner (.token stats kinds subtypes) .board)
  damage : ∀ g c n, P g → g.OnBoard c →
    P (g.modifyCard c fun i => { i with damage := Amount.plus i.damage n })
  bonus : ∀ {x powerSign power healthSign health},
    may x (.card (.gets powerSign power healthSign health)) →
    ∀ g c, P g → P (g.modifyCard c fun i => { i with
      modifiers := i.modifiers ++
        [⟨powerSign.apply (power.value x), healthSign.apply (health.value x)⟩] })
  activate : ∀ {x cards}, may x (.player (.activate cards)) →
    ∀ g c, P g → P (g.modifyCard c fun i => { i with activated := true })
  deactivate : ∀ g c, P g → P (g.modifyCard c fun i => { i with activated := false })
  store : ∀ {f}, Stores f → ∀ g p, P g → P (g.modifyPlayer p f)
  harm : ∀ p n, Step.Keeps P (Step.loseLife p n)
  heal : ∀ {x amount}, may x (.player (.gainLife amount)) →
    ∀ p, Step.Keeps P (Step.gainLife p (amount.value x))
  shuffle : ∀ p z, Step.Keeps P (Step.shuffleZone p z)
  random : ∀ g r, P g → P { g with random := r }

/-- A property that resolving effects keeps, as long as they may be applied: it is kept by all
questions, also whether an effect applies, and by noting on whose behalf things happen. -/
structure KeptByEffects (may : Amount → SingleEffect → Prop) (P : Game → Prop) : Prop
    extends KeptByApplying may P where
  saying : KeptByTalk P
  resolving : ∀ g c, P g → P { g with resolving := c }
  pickCard p _ := Step.keeps_chooseOne_of_asking (saying.asking p) _
  pickDiscards p _ count := Step.keeps_chooseMany_of_asking (saying.asking p) _ count
  reveal := saying.reveal

structure KeptByDeeds (may : SingleEffect → Prop) (P : Game → Prop) : Prop
    extends KeptByEffects (fun _ => may) P where
  talk : BlindToTalk P
  emit : ∀ kind subject, Step.Keeps P (Step.emit kind subject)
  move : ∀ c goal position, Act.Keeps P (Act.moveCard c goal position)
  account : ∀ {f}, Accounts f → ∀ g p, P g → P (g.modifyPlayer p f)
  saying := talk.saying
  announce kind subject _ := emit kind subject
  exhausted g _ start _ := emit _ _ g start
  send _ := move _ _ _
  store stores := account stores.accounts
  harm p _ := Step.keeps_loseLife_of (fun g => account (.ofLife _) g p) (emit _ _) (emit _ _)
  heal _ p := Step.keeps_gainLife_of (fun g => account (.ofLife _) g p) (emit _ _)

/-- A property that the changes effects are made of keep, events about a board apart. -/
structure KeptByWrites (P : Game → Prop) : Prop extends KeptByEffects (fun _ _ => True) P where
  lose : ∀ p, Step.Keeps P (Step.emit .lose (.player p))
  move : ∀ c goal position, Act.Keeps P (Act.moveCard c goal position)
  create : ∀ owner template z, Act.Keeps P (Act.createCard owner template z)
  mark : ∀ {f}, Marks f → ∀ g c, P g → P (g.modifyCard c f)
  account : ∀ {f}, Accounts f → ∀ g p, P g → P (g.modifyPlayer p f)
  exhausted g p start _ := lose p g start
  send _ := move _ _ _
  spawn _ owner := create owner _ .board
  damage g c _ start _ := mark (fun _ => rfl) g c start
  bonus _ g c start := mark (fun _ => rfl) g c start
  activate _ g c start := mark (fun _ => rfl) g c start
  deactivate g c start := mark (fun _ => rfl) g c start
  store stores := account stores.accounts
  harm p _ := Step.keeps_loseLife_of (fun g => account (.ofLife _) g p)
    (announce _ _ rfl) (lose p)
  heal _ p := Step.keeps_gainLife_of (fun g => account (.ofLife _) g p) (announce _ _ rfl)

structure KeptByChanges (P : Game → Prop) :
    Prop extends KeptByDeeds (fun _ => True) P, KeptByWrites P where
  lose := fun p => emit .lose (.player p)

theorem Step.keeps_chooseX {P : Game → Prop} {p : PlayerId} (k : KeptByAsking p P)
    (costs : List CostSymbol) : Keeps P (chooseX p costs) := by
  unfold chooseX
  split
  · refine keeps_get.bind fun g => ?_
    dsimp only
    split
    · exact (keeps_chooseOne_of_asking k _).bind fun _ => keeps_pure _
    · exact keeps_pure _
  · exact keeps_pure _

/-- From one game to another one nothing changed but players, cards, what players saw, the source of
what happens and the random numbers, and no card vanished. -/
structure Writes (g h : Game) : Prop where
  frame : h = { g with
    players := h.players, choosers := h.choosers, cards := h.cards, resolving := h.resolving,
    random := h.random, chronicle := h.chronicle }
  cards : g.cards.size ≤ h.cards.size

namespace Writes

variable {g h : Game}

theorem of_cards (frame : h = { g with
    players := h.players, choosers := h.choosers, cards := h.cards, resolving := h.resolving,
    random := h.random, chronicle := h.chronicle })
      (cards : h.cards.size = g.cards.size) : Writes g h :=
  ⟨frame, Nat.le_of_eq cards.symm⟩

theorem stack (writes : Writes g h) : h.stack = g.stack := by
  rw [writes.frame]

theorem nextUse (writes : Writes g h) : h.nextUse = g.nextUse := by
  rw [writes.frame]

theorem turn (writes : Writes g h) : h.turn = g.turn := by
  rw [writes.frame]

end Writes

@[simp] theorem Game.size_modifyCard (g : Game) (c : CardId) (f : CardInstance → CardInstance) :
    (g.modifyCard c f).cards.size = g.cards.size := by
  simp [modifyCard]

namespace Act

variable {P : Game → Prop}

theorem keeps_slotFor (c : CardId) (i : CardInstance) (goal : Zone) (position : Position) :
    Keeps P (slotFor c i goal position) := by
  unfold slotFor
  split
  · exact keeps_pure _
  · split
    · exact keeps_throw _
    · refine keeps_getThe.bind fun g => ?_
      dsimp only
      split
      · split
        · exact keeps_pure _
        · exact keeps_throw _
      · split
        · exact keeps_pure _
        · exact keeps_throw _

theorem keeps_takeOut_with {c : CardId} (goal : Zone)
    (emitted : Step.Keeps P (Step.emit .leaveBoard (.card c)))
    (shelved : ∀ {f}, ShelvesFor goal f → ∀ g p, P g → P (g.modifyPlayer p f))
    (left : ∀ g, P g → P (g.modifyCard c fun i => { i.leaveBoard with controller := i.owner }))
    (i : CardInstance) : Keeps P (takeOut c i) := by
  unfold takeOut
  split
  · exact (keeps_lift emitted).bind fun _ => (keeps_card c).bind fun _ =>
      keeps_modifyThe fun g start =>
      left _ (shelved (.modifyBoard goal (·.remove c)) g _ start)
  · exact keeps_modifyThe fun g start => shelved (.remove goal _ c) g _ start

theorem keeps_moveCard_with {c : CardId} {goal : Zone}
    (emitted : ∀ kind, Step.Keeps P (Step.emit kind (.card c)))
    (shelved : ∀ {f}, ShelvesFor goal f → ∀ g p, P g → P (g.modifyPlayer p f))
    (carried : ∀ {f}, Carries goal f → ∀ g, P g → P (g.modifyCard c f)) (position : Position) :
    Keeps P (moveCard c goal position) := by
  have placed : ∀ k, Carries goal fun i => { i with slot := some k } :=
    fun _ _ => ⟨rfl, .inl rfl, List.Subset.refl _⟩
  have recorded : Carries goal fun i => { i with zone := goal } :=
    fun _ => ⟨rfl, .inr rfl, List.Subset.refl _⟩
  have taken : ∀ i, Keeps P (takeOut c i) :=
    keeps_takeOut_with goal (emitted _) shelved
      (carried fun _ => ⟨rfl, .inl rfl, List.nil_subset _⟩)
  have put : ∀ i slot, Keeps P (putInto c i goal position slot) := by
    intro i slot
    have written : Keeps P (modifyThe Game (·.modifyCard c fun i => { i with zone := goal })) :=
      keeps_modifyThe fun g start => carried recorded g start
    unfold putInto
    cases slot with
    | none =>
      exact (keeps_modifyThe fun g start =>
        shelved (.insert goal c position) g _ start).bind fun _ => written
    | some k =>
      exact (keeps_modifyThe fun g start => carried (placed k) _
        (shelved (.modifyBoard goal (·.place k c)) g _ start)).bind fun _ => written
  refine (keeps_card c).bind fun i => (keeps_slotFor c i goal position).bind fun slot =>
    (taken i).bind fun _ => (put i slot).bind fun _ => ?_
  split
  · exact keeps_lift (emitted _)
  · exact keeps_pure ()

theorem keeps_moveCard_of {c : CardId} {goal : Zone}
    (emitted : ∀ kind, Step.Keeps P (Step.emit kind (.card c)))
    (shelved : ∀ {f}, Shelves f → ∀ g p, P g → P (g.modifyPlayer p f))
    (carried : ∀ {f}, Carries goal f → ∀ g, P g → P (g.modifyCard c f)) (position : Position) :
    Keeps P (moveCard c goal position) :=
  keeps_moveCard_with emitted (fun shelves => shelved shelves.shelves) carried position

theorem keeps_createCard_of {owner : PlayerId} {template : Card} {z : Zone}
    (added : Step.Keeps P (Step.addCard owner template .stack))
    (moved : ∀ c, Keeps P (moveCard c z .bottom)) : Keeps P (createCard owner template z) := by
  refine keeps_getThe.bind fun g => (keeps_require _ _).bind fun _ =>
    (keeps_require _ _).bind fun _ => ?_
  refine (keeps_lift added).bind fun c => ?_
  split
  · exact (moved c).bind fun _ => keeps_pure c
  · exact keeps_pure c

end Act

theorem Step.keeps_shuffleZone_of {P : Game → Prop} (p : PlayerId) (z : Zone)
    (shelved : ∀ {f}, Shelves f → ∀ g p, P g → P (g.modifyPlayer p f))
    (random : ∀ g r, P g → P { g with random := r }) : Keeps P (shuffleZone p z) := by
  refine keeps_modify fun g start => ?_
  split
  · exact start
  · exact random _ _ (shelved (shelves_modifyPile _ _) g p start)

theorem Step.card?_addCard {g : Game} {owner : PlayerId} {template : Card} {z : Zone} {c : CardId}
    {i : CardInstance} (found : (StateT.run (addCard owner template z) g).2.card? c = some i) :
    g.card? c = some i ∨ i = CardInstance.fresh ⟨g.cards.size⟩ template owner z := by
  change (g.cards.push (CardInstance.fresh ⟨g.cards.size⟩ template owner z))[c.index]? =
    some i at found
  rw [Array.getElem?_push] at found
  split at found
  · exact .inr (Option.some.inj found).symm
  · exact .inl found

def Game.Every (Q : CardInstance → Prop) (g : Game) : Prop :=
  ∀ c i, g.card? c = some i → Q i

namespace Game.Every

variable {Q : CardInstance → Prop} {g : Game}

theorem of_cards {h : Game} (every : g.Every Q) (cards : h.cards = g.cards) : h.Every Q := by
  intro c i found
  rw [card?, cards] at found
  exact every c i found

theorem modifyCard (every : g.Every Q) {f : CardInstance → CardInstance} (keep : ∀ i, Q i → Q (f i))
    {c : CardId} : (g.modifyCard c f).Every Q := by
  intro d i found
  by_cases same : c = d
  · subst same
    rw [card?_modifyCard_self] at found
    obtain ⟨j, known, rfl⟩ := Option.map_eq_some_iff.1 found
    exact keep j (every c j known)
  · rw [card?_modifyCard_of_ne _ same] at found
    exact every d i found

theorem addCard (every : g.Every Q) {owner : PlayerId} {template : Card} {z : Zone}
    (fresh : ∀ c, Q (CardInstance.fresh c template owner z)) :
    (StateT.run (Step.addCard owner template z) g).2.Every Q := by
  intro d i found
  rcases Step.card?_addCard found with known | rfl
  · exact every d i known
  · exact fresh _

end Game.Every

def Game.Templates (Q : Card → Prop) (g : Game) : Prop :=
  g.Every fun i => Q i.card

namespace Game.Templates

variable {Q : Card → Prop} {g : Game}

theorem of_cards {h : Game} (templates : g.Templates Q) (cards : h.cards = g.cards) :
    h.Templates Q :=
  Every.of_cards templates cards

theorem modifyCard (templates : g.Templates Q) {f : CardInstance → CardInstance}
    (template : ∀ i, (f i).card = i.card) (c : CardId) : (g.modifyCard c f).Templates Q :=
  Every.modifyCard templates fun i printed => (congrArg Q (template i)).mpr printed

theorem addCard (templates : g.Templates Q) (owner : PlayerId) {template : Card}
    (printed : Q template)
    (z : Zone) : (StateT.run (Step.addCard owner template z) g).2.Templates Q :=
  Every.addCard templates fun _ => printed

end Game.Templates

/-- A property is kept by applying effects when emissions, revelations and the choices of cards keep
it and it depends on nothing that effects write but on what is printed on cards, of which tokens
have nothing. -/
theorem KeptByApplying.of_templates {within : Amount → SingleEffect → Prop} {P : Game → Prop}
    (pickCard : ∀ p options, Step.Keeps P (Step.chooseOne p (.card options)))
    (pickDiscards : ∀ p options count, Step.Keeps P
      (Step.chooseMany p (.discard options count) count))
    (reveal : ∀ p cards, Step.Keeps P (Step.reveal p cards))
    (emit : ∀ kind subject, Step.Keeps P (Step.emit kind subject))
    (frame : ∀ g players random, P g → P { g with players := players, random := random })
    (modifyCard : ∀ {f : CardInstance → CardInstance}, (∀ i, (f i).card = i.card) →
      ∀ g c, P g → P (g.modifyCard c f))
    (token : ∀ owner stats kinds subtypes,
      Step.Keeps P (Step.addCard owner (.token stats kinds subtypes) .stack)) :
    KeptByApplying within P := by
  have players : ∀ f g p, P g → P (g.modifyPlayer p f) := fun f g p =>
    frame g (g.players.modify p f) g.random
  have random : ∀ g r, P g → P { g with random := r } := fun g r => frame g g.players r
  have mark : ∀ {f}, Marks f → ∀ g c, P g → P (g.modifyCard c f) :=
    fun marks => modifyCard fun i => by rw [marks i]
  have moved : ∀ c goal position, Act.Keeps P (Act.moveCard c goal position) := fun c goal =>
    Act.keeps_moveCard_of (fun _ => emit _ _) (fun _ => players _)
      fun carries g => modifyCard (fun i => (carries i).1) g c
  exact
    { pickCard := pickCard
      pickDiscards := pickDiscards
      reveal := reveal
      announce := fun kind subject _ => emit kind subject
      exhausted := fun g _ start _ => emit _ _ g start
      send := fun _ => moved _ _ _
      spawn := fun _ owner => Act.keeps_createCard_of (token owner _ _ _) fun c => moved c _ _
      damage := fun g c _ start _ => mark (fun _ => rfl) g c start
      bonus := fun _ g c => mark (fun _ => rfl) g c
      activate := fun _ g c => mark (fun _ => rfl) g c
      deactivate := mark fun _ => rfl
      store := fun _ => players _
      harm := fun p _ => Step.keeps_loseLife_of (fun g => players _ g p) (emit _ _) (emit _ _)
      heal := fun _ p => Step.keeps_gainLife_of (fun g => players _ g p) (emit _ _)
      shuffle := fun p z => Step.keeps_shuffleZone_of p z (fun _ => players _) random
      random := random }

theorem KeptByEffects.of_templates {within : Amount → SingleEffect → Prop} {P : Game → Prop}
    (saying : KeptByTalk P) (emit : ∀ kind subject, Step.Keeps P (Step.emit kind subject))
    (frame : ∀ g players resolving random, P g →
      P { g with players := players, resolving := resolving, random := random })
    (modifyCard : ∀ {f : CardInstance → CardInstance}, (∀ i, (f i).card = i.card) →
      ∀ g c, P g → P (g.modifyCard c f))
    (token : ∀ owner stats kinds subtypes,
      Step.Keeps P (Step.addCard owner (.token stats kinds subtypes) .stack)) :
    KeptByEffects within P where
  toKeptByApplying := .of_templates (fun p _ => Step.keeps_chooseOne_of_asking (saying.asking p) _)
    (fun p _ count => Step.keeps_chooseMany_of_asking (saying.asking p) _ count) saying.reveal emit
    (fun g players random => frame g players g.resolving random) modifyCard token
  saying := saying
  resolving g c := frame g g.players c g.random

section Closed

variable {P : Game → Prop} (write : ∀ {g h}, P g → Writes g h → P h)
  (emit : ∀ kind subject, Step.Keeps P (Step.emit kind subject))
include write emit

theorem KeptByChanges.of_writes : KeptByChanges P := by
  have shelved : ∀ {f : Player → Player}, Shelves f → ∀ g p, P g → P (g.modifyPlayer p f) :=
    fun _ _ _ start => write start (.of_cards rfl rfl)
  have random : ∀ g r, P g → P { g with random := r } :=
    fun _ _ start => write start (.of_cards rfl rfl)
  have move : ∀ c goal position, Act.Keeps P (Act.moveCard c goal position) := fun c goal =>
    Act.keeps_moveCard_of (fun kind => emit kind _) shelved
      fun _ _ start => write start (.of_cards rfl (by simp))
  have added : ∀ owner template, Step.Keeps P (Step.addCard owner template .stack) :=
    fun _ _ => Step.keeps_modifyGet fun g start => write start ⟨rfl, by simp⟩
  exact
    { talk := fun _ _ _ start => write start (.of_cards rfl rfl)
      emit := emit, move := move
      create := fun owner template z => Act.keeps_createCard_of (added owner template) fun c =>
        move c z .bottom
      mark := fun _ g c start => write start (.of_cards rfl (by simp))
      account := fun _ _ _ start => write start (.of_cards rfl rfl)
      shuffle := fun p z => Step.keeps_shuffleZone_of p z shelved random
      random := random
      resolving := fun _ _ start => write start (.of_cards rfl rfl) }

end Closed

namespace Act

theorem keeps_pay_with {P : Game → Prop} {c : CardId} {costs : List CostSymbol}
    (announced : ∀ kind subject, kind.isPlain → Step.Keeps P (Step.emit kind subject))
    (stored : ∀ {f}, Stores f → ∀ g p, P g → P (g.modifyPlayer p f))
    (activated : .activate ∈ costs → ∀ g, P g →
      P (g.modifyCard c fun i => { i with activated := true }))
    (deactivated : .deactivate ∈ costs → ∀ g, P g →
      P (g.modifyCard c fun i => { i with activated := false })) (x : Amount) :
    Keeps P (pay c costs x) := by
  have symbols : ∀ rest, rest ⊆ costs → Keeps P (rest.forM (paySymbol c)) := by
    intro rest
    induction rest with
    | nil => exact fun _ => keeps_pure ()
    | cons symbol rest ih =>
      intro among
      refine Keeps.bind ?_ fun _ => ih fun _ mem => among (.tail _ mem)
      cases symbol with
      | activate =>
        exact (keeps_changeCard (activated (among (.head _)))).bind fun _ =>
          keeps_lift (announced _ _ rfl)
      | deactivate =>
        exact (keeps_changeCard (deactivated (among (.head _)))).bind fun _ =>
          keeps_lift (announced _ _ rfl)
      | essence e => exact keeps_pure ()
      | generic q => exact keeps_pure ()
  have read : Leads P (getThe Game) (fun known g => known = g ∧ P g) P :=
    leads_getThe fun g start => ⟨rfl, start⟩
  refine (keeps_card c).bind fun i => Leads.keeps (read.bind fun known g start => ?_)
  obtain ⟨rfl, start⟩ := start
  -- The pool that is written is the one that a payment out of the pool at that moment leaves.
  have paid := stored (.pay costs x) known i.controller start
  rw [Game.modifyPlayer_congr (k := fun s => { s with
    essence := ((known.player i.controller).essence.pay costs x).2 }) rfl] at paid
  exact ((keeps_require _ _).bind fun _ => symbols costs fun _ mem => mem).leads _ paid

theorem keeps_pay_of {P : Game → Prop} {c : CardId} {costs : List CostSymbol}
    (emit : ∀ kind subject, Step.Keeps P (Step.emit kind subject))
    (account : ∀ {f}, Accounts f → ∀ g p, P g → P (g.modifyPlayer p f))
    (activated : .activate ∈ costs → ∀ g, P g →
      P (g.modifyCard c fun i => { i with activated := true }))
    (deactivated : .deactivate ∈ costs → ∀ g, P g →
      P (g.modifyCard c fun i => { i with activated := false })) (x : Amount) :
    Keeps P (pay c costs x) :=
  keeps_pay_with (fun kind subject _ => emit kind subject) (fun stores => account stores.accounts)
    activated
    deactivated x

end Act

theorem Step.keeps_emit_onBoard (c : CardId) (kind : EventKind) (subject : ObjectRef) :
    Keeps (·.OnBoard c) (emit kind subject) := by
  intro g on
  rcases emit_cases kind subject g with dropped | frame
  · rw [dropped]
    exact on
  · rcases on with ⟨i, found, zone⟩ | ⟨p, held⟩
    · exact .inl ⟨i, by rw [Game.card?, frame.cards]; exact found, zone⟩
    · exact .inr ⟨p, by rw [frame.player]; exact held⟩

theorem KeptByDeeds.allowed_of_aimed {may : SingleEffect → Prop} {es ds : List PlannedEffect}
    (aimed : List.Forall₂ PlannedEffect.Aimed es ds) (allowed : ∀ e ∈ es, may e.effect) :
    ∀ d ∈ ds, may d.effect := by
  intro d mem
  obtain ⟨e, listed, same⟩ := PlannedEffect.Aimed.exists_of_mem aimed mem
  exact same.effect_eq ▸ allowed e listed

namespace KeptByApplying

open Act

variable {may : Amount → SingleEffect → Prop} {P : Game → Prop} (k : KeptByApplying may P)
include k

theorem keeps_announce (kind : EventKind) (subject : ObjectRef) (plain : kind.isPlain) :
    Keeps P (liftM (Step.emit kind subject) : Act Unit) :=
  keeps_lift (k.announce kind subject plain)

theorem keeps_store {f : Player → Player} (stores : Stores f) (p : PlayerId) :
    Keeps P (modifyThe Game (·.modifyPlayer p f) : Act Unit) :=
  keeps_modifyThe fun g h => k.store stores g p h

theorem keeps_send {c : CardId} {goal : Zone} {position : Position}
    (elsewhere : (goal == .stack || goal == .deck) = false) : Keeps P (moveCard c goal position) :=
  k.send fun there => absurd (by simpa using there) (Bool.eq_false_iff.1 elsewhere)

theorem keeps_drawCards (p : PlayerId) (n : Nat) : Keeps P (drawCards p n) := by
  induction n with
  | zero => exact keeps_pure ()
  | succ n ih =>
    have read : Leads P (getThe Game) (fun known g => known = g ∧ P g) P :=
      leads_getThe fun g start => ⟨rfl, start⟩
    refine (read.bind fun known => ?_).keeps
    split
    · next empty => exact leads_lift fun g start => k.exhausted g p start.2 (start.1 ▸ empty)
    · next c _ =>
      have drawn : Keeps P (do
          moveCard c .hand .bottom
          Step.emit .draw (.card c)
          drawCards p n) :=
        (k.keeps_send rfl).bind fun _ => (k.keeps_announce _ _ rfl).bind fun _ => ih
      exact fun g start => drawn.leads g start.2

theorem keeps_draw (p : PlayerId) (count : Amount) : Keeps P (draw p count) :=
  k.keeps_drawCards p count.times

theorem keeps_destroy (c : CardId) : Keeps P (destroy c) :=
  (k.keeps_send rfl).bind fun _ => k.keeps_announce _ _ rfl

theorem keeps_checkLethal (c : CardId) : Keeps P (checkLethal c) := by
  refine (keeps_card c).bind fun i => ?_
  split
  · exact k.keeps_destroy c
  · exact keeps_pure ()

theorem leads_dealDamage (c : CardId) (n : Amount) :
    Leads (fun g => P g ∧ g.OnBoard c) (dealDamage c n) (fun _ => P) P := by
  have marked : Leads (fun g => P g ∧ g.OnBoard c)
      (changeCard c fun i => { i with damage := Amount.plus i.damage n }) (fun _ => P) P := by
    refine Leads.bind (Q := fun _ g => P g ∧ g.OnBoard c) ?_ fun _ =>
      leads_modifyThe fun g start => k.damage g c n start.1 start.2
    exact (keeps_card c).leads.weaken (fun _ _ kept => kept) fun _ kept => kept.1
  exact marked.bind fun _ => (k.keeps_announce _ _ rfl).leads.bind fun _ =>
    (k.keeps_checkLethal c).leads

theorem keeps_createTokens {x : Amount} {count : Quantity} {stats : Option Stats}
    {kinds : List KindWord}
    {subtypes : List CardSubtype} (allowed : may x (.player (.token count stats kinds subtypes)))
    (p : PlayerId) (n : Nat) : Keeps P (createTokens p (.token stats kinds subtypes) n) := by
  induction n with
  | zero => exact keeps_pure ()
  | succ n ih =>
    refine keeps_getThe.bind fun g => ?_
    split
    · exact (k.spawn allowed _).bind fun _ => ih
    · exact keeps_pure ()

theorem keeps_destroyCards (cards : List CardId) : Keeps P (destroyCards cards) := by
  refine Keeps.forM (fun c => (keeps_card c).bind fun i => ?_) cards
  split
  · exact k.keeps_destroy c
  · exact keeps_pure ()

theorem keeps_discard (p : PlayerId) (count : Amount) (eligible : Option (List CardId)) :
    Keeps P (discard p count eligible) := by
  refine keeps_getThe.bind fun g => ?_
  refine (keeps_lift (k.pickDiscards p _ _)).bind fun chosen => ?_
  refine Keeps.forM (fun i => ?_) _
  split
  · exact keeps_pure ()
  · exact (k.keeps_send rfl).bind fun _ => k.keeps_announce _ _ rfl

theorem keeps_shuffleInto (p : PlayerId) (cards : List CardId) {z : Zone}
    (sending : z = .stack ∨ z = .deck → ∃ x e, may x e ∧ e.sendsTo z) :
    Keeps P (shuffleInto p cards z) := by
  refine (Keeps.forM (fun c => (keeps_card c).bind fun i => ?_) cards).bind fun _ =>
    keeps_lift (k.shuffle p z)
  split
  · exact k.send sending
  · exact keeps_pure ()

theorem keeps_look (p : PlayerId) (count : Amount) (z : Zone) : Keeps P (look p count z) := by
  refine keeps_getThe.bind fun g => ?_
  split <;> exact keeps_lift (k.reveal _ _)

theorem keeps_shuffled (cards : List CardId) : Step.Keeps P (shuffled cards) :=
  Step.keeps_modifyGet fun g h => k.random g _ h

theorem keeps_put (cards : List CardId) {z : Zone}
    (sending : z = .stack ∨ z = .deck → ∃ x e, may x e ∧ e.sendsTo z)
    (position : Position) (deactivated : Bool) : Keeps P (put cards z position deactivated) := by
  refine Keeps.forM (fun c => (keeps_card c).bind fun i => keeps_getThe.bind fun g => ?_) cards
  dsimp only
  split
  · exact keeps_pure ()
  · refine (k.send sending).bind fun _ => ?_
    split
    · exact keeps_changeCard fun g h => k.deactivate g c h
    · exact keeps_pure ()

theorem keeps_setActivated {on : Bool}
    (marked : ∀ g c, P g → P (g.modifyCard c fun i => { i with activated := on }))
    (cards : List CardId) : Keeps P (setActivated cards on) :=
  Keeps.forM (fun c => (keeps_changeCard fun g h => marked g c h).bind fun _ =>
    k.keeps_announce _ _ (by cases on <;> rfl)) cards

omit k in
theorem keeps_ownedOnBoard (p : PlayerId) (cards : List CardId) : Keeps P (ownedOnBoard p cards) :=
  Keeps.filterM (fun c => (keeps_card c).bind fun _ => keeps_pure _) cards

theorem keeps_sacrificeEach (u : AbilityUse) (cards : List CardId) :
    Keeps P (sacrificeEach u cards) := by
  induction cards generalizing u with
  | nil => exact keeps_pure u
  | cons c rest ih =>
    exact (k.keeps_send rfl).bind fun _ => (k.keeps_announce _ _ rfl).bind fun _ => ih _

theorem keeps_sacrifice (u : AbilityUse) (p : PlayerId) (m : CardMatch) (cards : List CardId) :
    Keeps P (sacrifice u p m cards) := by
  refine (keeps_ownedOnBoard p cards).bind fun owned => ?_
  split
  · refine (keeps_lift (k.pickCard p _)).bind fun chosen => ?_
    split
    · exact keeps_pure u
    · exact k.keeps_sacrificeEach u _
  · exact k.keeps_sacrificeEach u _

theorem keeps_applyToPlayer (u : AbilityUse) {e : PlayerEffect} (allowed : may u.x (.player e))
    (p : PlayerId) (objects : List ObjectRef) : Keeps P (applyToPlayer u e p objects) := by
  unfold applyToPlayer
  cases e with
  | draw count => exact (k.keeps_draw p _).bind fun _ => keeps_pure u
  | token count stats kinds subtypes =>
    exact (k.keeps_createTokens allowed p _).bind fun _ => keeps_pure u
  | destroy target => exact (k.keeps_destroyCards _).bind fun _ => keeps_pure u
  | discard count filter => exact (k.keeps_discard p _ _).bind fun _ => keeps_pure u
  | shuffle cards zone =>
    have sending : zone.first = .stack ∨ zone.first = .deck → ∃ x e, may x e ∧
        e.sendsTo zone.first :=
      fun _ => ⟨u.x, _, allowed, beq_self_eq_true _⟩
    exact (k.keeps_shuffleInto p _ sending).bind fun _ => keeps_pure u
  | look count zone => exact (k.keeps_look p _ _).bind fun _ => keeps_pure u
  | put cards position zone anyOrder randomOrder deactivated =>
    have sending : zone.first = .stack ∨ zone.first = .deck → ∃ x e, may x e ∧
        e.sendsTo zone.first :=
      fun _ => ⟨u.x, _, allowed, beq_self_eq_true _⟩
    dsimp only
    split
    · exact (keeps_lift (k.keeps_shuffled _)).bind fun _ =>
        (k.keeps_put _ sending _ _).bind fun _ => keeps_pure u
    · exact (keeps_pure _).bind fun _ => (k.keeps_put _ sending _ _).bind fun _ => keeps_pure u
  | activate cards => exact (k.keeps_setActivated (k.activate allowed) _).bind fun _ => keeps_pure u
  | deactivate cards => exact (k.keeps_setActivated k.deactivate _).bind fun _ => keeps_pure u
  | sacrifice m => exact k.keeps_sacrifice u p m _
  | add essence => exact (k.keeps_store (.addEssence essence u.x) p).bind fun _ => keeps_pure u
  | payEssence costs => exact (k.keeps_store (.spend costs u.x) p).bind fun _ => keeps_pure u
  | gainLife amount => exact (keeps_lift (k.heal allowed p)).bind fun _ => keeps_pure u
  | loseLife amount => exact (keeps_lift (k.harm p _)).bind fun _ => keeps_pure u
  | payLife amount => exact (keeps_lift (k.harm p _)).bind fun _ => keeps_pure u
  | extraTurn count => exact (k.keeps_store (.ofTurns _) p).bind fun _ => keeps_pure u

theorem keeps_attack (c : CardId) : Keeps P (attack c) := by
  refine (keeps_card c).bind fun i => (k.keeps_announce _ _ rfl).bind fun _ => Leads.keeps ?_
  have read : Leads P (getThe Game) (fun known g => known = g ∧ P g) P :=
    leads_getThe fun g start => ⟨rfl, start⟩
  refine read.bind fun known => ?_
  split
  · exact leads_pure fun g start => start.2
  · next opponent _ =>
    split
    · next blocker across =>
      obtain ⟨slot, -, held⟩ := Option.bind_eq_some_iff.1 across
      have blocked : Leads (fun g => known = g ∧ P g)
        (liftM (Step.emit .block (.card blocker)) : Act Unit)
          (fun _ g => P g ∧ g.OnBoard blocker) P := by
        refine leads_lift fun g start => ⟨k.announce _ _ rfl g start.2,
          Step.keeps_emit_onBoard _ _ _ g ?_⟩
        exact .inr ⟨opponent, start.1 ▸ Board.mem_cards_of_get? held⟩
      exact blocked.bind fun _ => k.leads_dealDamage _ _
    · have struck : Keeps P (do
          Step.loseLife opponent i.power
          Step.emit .playerDamage (.player opponent) : Act Unit) :=
        (keeps_lift (k.harm _ _)).bind fun _ => k.keeps_announce _ _ rfl
      exact fun g start => struck.leads g start.2

theorem keeps_damageObject (n : Amount) (o : ObjectRef) : Keeps P (damageObject n o) := by
  cases o with
  | card c =>
    have found : Leads P (card c) (fun i g => P g ∧ g.card? c = some i) P :=
      leads_card (fun g i start found => ⟨start, found⟩) fun _ start => start
    refine (found.bind fun i => ?_).keeps
    split
    · next boarded =>
      exact fun g start => k.leads_dealDamage c n g ⟨start.1, .inl ⟨i, start.2, boarded⟩⟩
    · exact leads_pure fun g start => start.1
  | player p => exact (keeps_lift (k.harm p n)).bind fun _ => k.keeps_announce _ _ rfl

theorem keeps_applyToCard {x : Amount} {e : CardEffect} (allowed : may x (.card e)) (c : CardId)
    (objects : List ObjectRef) : Keeps P (applyToCard x e c objects) := by
  cases e with
  | damage amount target => exact Keeps.forM (k.keeps_damageObject _) objects
  | gets powerSign power healthSign health =>
    exact (keeps_changeCard fun g h => k.bonus allowed g c h).bind fun _ => k.keeps_checkLethal c
  | attack => exact k.keeps_attack c

end KeptByApplying

namespace KeptByEffects

open Act

variable {may : Amount → SingleEffect → Prop} {P : Game → Prop} (k : KeptByEffects may P)
include k

theorem keeps_consents (answers : Consents) (group : Nat) (p : PlayerId) :
    Step.Keeps P (consents answers group p) := by
  unfold consents
  split
  · exact Step.keeps_pure _
  · exact (Step.keeps_chooseOne_of_asking (k.saying.asking p) _).bind fun _ => Step.keeps_pure _

theorem keeps_resolveForPlayer (e : PlannedEffect) {effect : PlayerEffect}
    (objects : List ObjectRef)
    {r : Resolution} (allowed : may r.use.x (.player effect)) (p : PlayerId) :
    Keeps P (resolveForPlayer e effect objects r p) := by
  have applied : ∀ accepted answers, Keeps P (if accepted = true then do
      return ⟨← applyToPlayer r.use effect p objects, answers⟩
    else return ⟨r.use, answers⟩ : Act Resolution) := by
    intro accepted answers
    split
    · exact (k.keeps_applyToPlayer _ allowed _ _).bind fun _ => keeps_pure _
    · exact keeps_pure _
  unfold resolveForPlayer
  split
  · exact (keeps_lift (k.keeps_consents _ _ _)).bind fun r => applied r.1 r.2
  · exact (keeps_pure _).bind fun r => applied r.1 r.2

omit k in
theorem keeps_foldlM_resolution {α : Type} {f : Resolution → α → Act Resolution} {l : List α}
    {r : Resolution} (kept : ∀ s : Resolution, s.use.x = r.use.x → ∀ a ∈ l, Keeps P (f s a))
    (becomes : ∀ s a, Gives (f s a) fun t => s.use.Becomes t.use) : Keeps P (l.foldlM f r) := by
  have inTurn : Ends (fun g => r.use.x = r.use.x ∧ P g) (l.foldlM f r)
      (fun s g => s.use.x = r.use.x ∧ P g) fun _ => P := by
    refine Ends.foldlM (R := fun s g => s.use.x = r.use.x ∧ P g)
      (fun s a mem => .given fun same => ?_) r
    exact ((kept s same a mem).leads_of (becomes s a)).ends.after
      fun t g after => ⟨after.2.x_eq.trans same, after.1⟩
  exact fun g start => inTurn.leads.left (fun _ _ after => after.2) (fun _ kept => kept)
    ⟨rfl, start⟩

theorem keeps_resolveEffect {r : Resolution} {e : PlannedEffect} (allowed : may r.use.x e.effect) :
    Keeps P (resolveEffect r e) := by
  refine keeps_getThe.bind fun g => ?_
  dsimp only
  split
  · next effect same =>
    refine keeps_foldlM_resolution (fun s x_eq p _ => ?_) (resolveForPlayer_becomes e effect _)
    exact k.keeps_resolveForPlayer e _ (x_eq ▸ same ▸ allowed) p
  · next effect same =>
    exact (Keeps.forM (fun c => k.keeps_applyToCard (same ▸ allowed) c _) _).bind fun _ =>
      keeps_pure r

theorem keeps_resolveEffects {u : AbilityUse} (allowed : ∀ e ∈ u.effects, may u.x e.effect) :
    Keeps P (resolveEffects u) := by
  have inTurn : Keeps P (u.effects.foldlM resolveEffect ⟨u, []⟩) :=
    keeps_foldlM_resolution (fun s x_eq e mem => k.keeps_resolveEffect (x_eq ▸ allowed e mem))
      resolveEffect_becomes
  exact inTurn.bind fun _ => keeps_pure _

theorem keeps_finishCast (u : AbilityUse) : Keeps P (finishCast u) := by
  refine (keeps_card _).bind fun i => ?_
  dsimp only
  split
  · split
    · refine keeps_getThe.bind fun g => ?_
      split
      · exact (k.keeps_send rfl).bind fun _ => k.keeps_announce _ _ rfl
      · exact (keeps_lift (k.saying.notice _ rfl)).bind fun _ =>
          (k.keeps_send rfl).bind fun _ => k.keeps_announce _ _ rfl
    · exact (k.keeps_send rfl).bind fun _ => k.keeps_announce _ _ rfl
  · exact k.keeps_announce _ _ rfl

theorem keeps_onBehalfOf {α : Type} (c : CardId) {act : Act α} (kept : Keeps P act) :
    Keeps P (onBehalfOf c act) :=
  keeps_getThe.bind fun _ => (keeps_modifyThe fun g h => k.resolving g _ h).bind fun _ =>
    kept.attempt.bind fun _ => (keeps_modifyThe fun g h => k.resolving g _ h).bind fun _ =>
      keeps_ofOutcome _

theorem keeps_resolveNow {u : AbilityUse} (allowed : ∀ e ∈ u.effects, may u.x e.effect) :
    Keeps P (resolveNow u) :=
  k.keeps_onBehalfOf _ (k.keeps_resolveEffects allowed)

theorem keeps_resolveUse {u : AbilityUse} (allowed : ∀ e ∈ u.effects, may u.x e.effect) :
    Keeps P (resolveUse u) := by
  refine k.keeps_onBehalfOf _ ((k.keeps_resolveEffects allowed).attempt.bind fun result => ?_)
  dsimp only
  split
  · exact (k.keeps_finishCast u).bind fun _ => (keeps_ofOutcome _).bind fun _ => keeps_pure _
  · exact (keeps_ofOutcome _).bind fun _ => keeps_pure _

theorem keeps_chooseX (p : PlayerId) (costs : List CostSymbol) :
    Step.Keeps P (Step.chooseX p costs) :=
  Step.keeps_chooseX (k.saying.asking p) costs

theorem keeps_pickUse (u : AbilityUse) : Step.Keeps P (Step.pickUse Step.emit u) :=
  Step.keeps_pickUse_of_targeting k.saying.targeting (fun o => k.announce _ o rfl) u

theorem keeps_pickUse_bind {α : Type} {u : AbilityUse} (allowed : ∀ e ∈ u.effects, may u.x e.effect)
    {next : AbilityUse → Act α}
    (rest : ∀ v, (∀ e ∈ v.effects, may v.x e.effect) → Keeps P (next v)) :
    Keeps P (liftM (Step.pickUse Step.emit u) >>= next) := by
  have picks : Step.Gives (Step.pickUse Step.emit u) fun v => ∀ e ∈ v.effects,
      may v.x e.effect := by
    intro g
    rw [(Step.pickUse_becomes Step.emit u g).x_eq]
    exact KeptByDeeds.allowed_of_aimed (Step.pickUse_aimed Step.emit u g) allowed
  have picked := (keeps_lift (k.keeps_pickUse u)).leads_of (gives_lift picks)
  exact (picked.bind fun v g start => (rest v start.2).leads g start.1).keeps

theorem keeps_payActions {u : AbilityUse} (allowed : ∀ e ∈ u.effects, may u.x e.effect) :
    Keeps P (payActions u) := by
  unfold payActions
  split
  · exact keeps_pure u
  · exact k.keeps_pickUse_bind allowed fun v allowed => (k.keeps_resolveNow allowed).bind fun _ =>
      keeps_pure _

end KeptByEffects

namespace KeptByDeeds

variable {may : SingleEffect → Prop} {P : Game → Prop} (k : KeptByDeeds may P)
include k

theorem keeps_account {f : Player → Player} (accounts : Accounts f) (p : PlayerId) :
    Act.Keeps P (modifyThe Game (·.modifyPlayer p f) : Act Unit) :=
  Act.keeps_modifyThe fun g h => k.account accounts g p h

end KeptByDeeds

namespace KeptByWrites

open Act

variable {P : Game → Prop} (k : KeptByWrites P)
include k

theorem turned {f : CardInstance → CardInstance} (turns : Turns f) (g : Game) (c : CardId)
    (start : P g) :
    P (g.modifyCard c f) :=
  k.mark turns.marks g c start

theorem keeps_mark {f : CardInstance → CardInstance} (marks : Marks f) (c : CardId) :
    Keeps P (changeCard c f) :=
  keeps_changeCard fun g h => k.mark marks g c h

theorem keeps_dealDamage (c : CardId) (n : Amount) : Keeps P (dealDamage c n) :=
  (k.keeps_mark (fun _ => rfl) c).bind fun _ =>
    (k.keeps_announce _ _ rfl).bind fun _ => k.keeps_checkLethal c

theorem keeps_gainLife (p : PlayerId) (n : Amount) : Step.Keeps P (Step.gainLife p n) :=
  Step.keeps_gainLife_of (fun g => k.account (.ofLife _) g p) (k.announce _ _ rfl)

theorem keeps_resolveEffect (r : Resolution) (e : PlannedEffect) : Keeps P (resolveEffect r e) :=
  k.toKeptByEffects.keeps_resolveEffect trivial

theorem keeps_resolveUse (u : AbilityUse) : Keeps P (resolveUse u) :=
  k.toKeptByEffects.keeps_resolveUse fun _ _ => trivial

theorem keeps_pay (c : CardId) (costs : List CostSymbol) (x : Amount) : Keeps P (pay c costs x) :=
  keeps_pay_with k.announce k.store (fun _ g => k.mark (fun _ => rfl) g c)
    (fun _ g => k.mark (fun _ => rfl) g c) x

theorem keeps_payActions (u : AbilityUse) : Keeps P (payActions u) :=
  k.toKeptByEffects.keeps_payActions fun _ _ => trivial

end KeptByWrites

end CardGame
