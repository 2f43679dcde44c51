import CardGame.Proofs.Essence
import CardGame.Proofs.Offers
import Mathlib.Data.List.Nodup

/-!
What the actions take that an ability costs. They are resolved like any other effects, each against
the game that the ones before it left: a sacrifice takes the cards that its player controls among
those that match by then, or the one that the player picks among several; a discard takes as many
cards as there are, up to its number. Nothing else is moved.
-/

namespace CardGame

structure Moved (c : CardId) (goal : Zone) (g h : Game) : Prop where
  zone : (h.card? c).map (·.zone) = some goal
  others : ∀ d, d ≠ c → h.card? d = g.card? d

structure Piled (cards : List CardId) (g h : Game) : Prop where
  piled : ∀ d ∈ cards, (h.card? d).map (·.zone) = some .pile
  others : ∀ d, d ∉ cards → h.card? d = g.card? d

namespace Piled

variable {cards : List CardId} {f g h : Game}

theorem none (g : Game) : Piled [] g g :=
  ⟨fun _ mem => (nomatch mem), fun _ _ => rfl⟩

theorem of_cards (piled : Piled cards f g) (same : h.cards = g.cards) : Piled cards f h := by
  have records : h.card? = g.card? := funext fun d => by rw [Game.card?, Game.card?, same]
  exact ⟨records ▸ piled.piled, records ▸ piled.others⟩

theorem blind (cards : List CardId) (g : Game) : BlindToTalk (Piled cards g) :=
  fun _ _ _ piled => piled.of_cards rfl

theorem concat {c : CardId} (piled : Piled cards f g) (moved : Moved c .pile g h) :
    Piled (cards ++ [c]) f h := by
  refine ⟨fun d mem => ?_, fun d absent => ?_⟩
  · by_cases same : d = c
    · exact same ▸ moved.zone
    · rw [moved.others d same]
      exact piled.piled d ((List.mem_append.1 mem).resolve_right (by simpa using same))
  · rw [List.mem_append, List.mem_singleton, not_or] at absent
    rw [moved.others d absent.2, piled.others d absent.1]

end Piled

namespace Act

variable {c : CardId} {g : Game}

def Around (c : CardId) (g h : Game) : Prop :=
  (h.card? c).isSome ∧ ∀ d, d ≠ c → h.card? d = g.card? d

theorem Around.modifyCard {h : Game} (around : Around c g h) (f : CardInstance → CardInstance) :
    Around c g (h.modifyCard c f) := by
  refine ⟨?_, fun d other => ?_⟩
  · rw [Game.card?_modifyCard_self, Option.isSome_map]
    exact around.1
  · rw [Game.card?_modifyCard_of_ne _ other.symm]
    exact around.2 d other

theorem keeps_emit_around (kind : EventKind) (subject : ObjectRef) :
    Step.Keeps (Around c g) (Step.emit kind subject) := by
  intro h around
  have records : (StateT.run (Step.emit kind subject) h).2.card? = h.card? :=
    funext fun d => by rw [Game.card?, Game.card?, Step.emit_cards]
  exact ⟨records ▸ around.1, records ▸ around.2⟩

theorem keeps_takeOut_around (i : CardInstance) : Keeps (Around c g) (takeOut c i) := by
  unfold takeOut
  split
  · exact (keeps_lift (keeps_emit_around _ _)).bind fun _ => (keeps_card c).bind fun _ =>
      keeps_modifyThe fun h around => Around.modifyCard (h := h.modifyPlayer _ _) around _
  · exact keeps_modifyThe fun h around => around

theorem ends_putInto_moved {i : CardInstance} {goal : Zone} (position : Position)
    (slot : Option Nat) :
    Ends (Around c g) (putInto c i goal position slot) (fun _ => Moved c goal g) fun _ _ =>
      True := by
  have recorded : Ends (Around c g) (modifyThe Game
    (·.modifyCard c fun i => { i with zone := goal }))
      (fun _ => Moved c goal g) fun _ _ => True := by
    refine ends_modifyThe fun h around => ⟨?_, (around.modifyCard _).2⟩
    obtain ⟨j, found⟩ := Option.isSome_iff_exists.1 around.1
    rw [Game.card?_modifyCard_self, found]
    rfl
  unfold putInto
  cases slot with
  | none =>
    refine Ends.bind (Q := fun _ => Around c g) ?_ fun _ => recorded
    exact ends_modifyThe fun h around => around
  | some k =>
    refine Ends.bind (Q := fun _ => Around c g) ?_ fun _ => recorded
    exact ends_modifyThe fun h around => Around.modifyCard (h := h.modifyPlayer _ _) around _

theorem ends_moveCard_moved (c : CardId) (goal : Zone) (position : Position) (g : Game) :
    Ends (fun h => h = g) (moveCard c goal position) (fun _ => Moved c goal g) fun _ _ => True := by
  have known : Ends (fun h => h = g) (card c) (fun _ => Around c g) fun _ _ => True :=
    ends_card (fun h i same found => same ▸ ⟨Option.isSome_of_eq_some found, fun _ _ => rfl⟩)
      fun _ _ _ => trivial
  refine known.bind fun i => ?_
  refine Ends.bind ((keeps_slotFor c i goal position).leads.ends.failing fun _ _ _ =>
    trivial) fun slot => ?_
  refine Ends.bind ((keeps_takeOut_around i).leads.ends.failing fun _ _ _ => trivial) fun _ => ?_
  refine (ends_putInto_moved position slot).bind fun _ => ?_
  split
  · refine ends_lift fun h moved => ?_
    have records : (StateT.run (Step.emit .enterBoard (.card c)) h).2.card? = h.card? :=
      funext fun d => by rw [Game.card?, Game.card?, Step.emit_cards]
    exact ⟨records ▸ moved.zone, records ▸ moved.others⟩
  · exact ends_pure fun h moved => moved

theorem ends_moveToPile {cards : List CardId} (c : CardId) :
    Ends (Piled cards g) (moveCard c .pile .top)
      (fun _ => Piled (cards ++ [c]) g) fun _ _ => True :=
  fun h piled => ((ends_moveCard_moved c .pile .top h).after fun _ _ moved =>
    piled.concat moved) h rfl

theorem ends_emit_piled {cards : List CardId} (kind : EventKind) (subject : ObjectRef) :
    Ends (Piled cards g) (liftM (Step.emit kind subject))
      (fun _ => Piled cards g) fun _ _ => True :=
  ends_lift fun _ piled => piled.of_cards (Step.emit_cards _ _ _)

theorem ends_sacrificeEach_piled {done : List CardId} (u : AbilityUse) (cards : List CardId) :
    Ends (Piled done g) (sacrificeEach u cards) (fun v h =>
      v = { u with sacrificed := u.sacrificed ++ cards } ∧ Piled (done ++ cards) g h) fun _ _ =>
        True := by
  induction cards generalizing done u with
  | nil =>
    refine ends_pure fun h piled => ?_
    rw [List.append_nil, List.append_nil]
    exact ⟨rfl, piled⟩
  | cons c rest ih =>
    refine (ends_moveToPile c).bind fun _ => (ends_emit_piled _ _).bind fun _ =>
      (ih _).after fun v h given => ?_
    rw [List.append_cons u.sacrificed, List.append_cons done]
    exact given

end Act

def Game.controlsOnBoard (g : Game) (p : PlayerId) (c : CardId) : Bool :=
  (g.card? c).any fun i => i.zone == .board && i.controller == p

namespace Act

variable {g : Game}

theorem ends_ownedOnBoard_eq (p : PlayerId) (cards : List CardId) :
    Ends (fun h => h = g) (ownedOnBoard p cards)
      (fun owned h => owned = cards.filter (g.controlsOnBoard p) ∧ h = g) fun _ _ => True := by
  refine Ends.filterM_eq (fun c => ?_) cards
  have read : Ends (fun h => h = g) (card c) (fun i h => g.card? c = some i ∧
      h = g) fun _ _ => True :=
    ends_card (fun h i same found => ⟨same ▸ found, same⟩) fun _ _ _ => trivial
  refine read.bind fun i => .given fun found => ends_pure fun h same => ⟨?_, same⟩
  rw [Game.controlsOnBoard, found]
  rfl

/-- The cards that a player gives up for a sacrifice among those that match: all that the player
controls, but of several in the singular only one that is picked. -/
def givenUp (g : Game) (p : PlayerId) (m : CardMatch) (cards : List CardId) : List CardId :=
  let owned := cards.filter (g.controlsOnBoard p)
  if !m.hasTarget && !m.isPlural && 1 < owned.length then
    ((StateT.run (Step.chooseOne p (.card owned)) g).1.bind fun i => owned[i]?).toList
  else
    owned

theorem ends_sacrifice_givenUp (u : AbilityUse) (p : PlayerId) (m : CardMatch)
    (cards : List CardId) :
    Ends (fun h => h = g) (sacrifice u p m cards) (fun v h =>
      v = { u with sacrificed := u.sacrificed ++ givenUp g p m cards } ∧
        Piled (givenUp g p m cards) g h) fun _ _ => True := by
  have each : ∀ given, Ends (Piled [] g) (sacrificeEach u given) (fun v h =>
      v = { u with sacrificed := u.sacrificed ++ given } ∧ Piled given g h) fun _ _ => True :=
    fun given => ends_sacrificeEach_piled u given
  refine (ends_ownedOnBoard_eq p cards).bind fun owned => .given fun same => ?_
  subst same
  unfold givenUp
  split
  · next several =>
    rw [if_pos several]
    have asked : Ends (fun h => h = g) (liftM
      (Step.chooseOne p (.card (cards.filter (g.controlsOnBoard p)))))
        (fun chosen h => chosen = (StateT.run (Step.chooseOne p (.card
          (cards.filter (g.controlsOnBoard p)))) g).1 ∧ Piled [] g h) fun _ _ => True := by
      refine ends_lift fun h same => ?_
      subst same
      exact ⟨rfl, Step.keeps_chooseOne (Piled.blind [] h) p _ h (Piled.none h)⟩
    refine asked.bind fun chosen => .given fun same => ?_
    rw [← same]
    split
    · next declined =>
      rw [declined]
      refine ends_pure fun h piled => ⟨?_, piled⟩
      rw [Option.toList_none, List.append_nil]
    · next c picked =>
      rw [picked]
      exact each [c]
  · next alone =>
    rw [if_neg alone]
    exact (each _).starting fun h same => same ▸ .none g

theorem length_fillUp {prompt : Prompt} {chosen : List Nat} {n : Nat}
    (selection : Selection prompt n chosen) (enough : n ≤ prompt.size) :
    (fillUp chosen prompt.size n).length = n := by
  have taken : ((List.range prompt.size).filter (chosen.contains ·)).Perm chosen := by
    refine (List.perm_ext_iff_of_nodup (List.nodup_range.filter _) selection.distinct).2 fun i => ?_
    rw [List.mem_filter, List.mem_range, List.contains_iff_mem]
    exact ⟨And.right, fun mem => ⟨selection.options i mem, mem⟩⟩
  have split := List.length_eq_length_filter_add (l := List.range prompt.size) (chosen.contains ·)
  rw [List.length_range, taken.length_eq] at split
  have := selection.atMost
  rw [fillUp, List.length_append, List.length_take]
  omega

theorem nodup_fillUp {prompt : Prompt} {chosen : List Nat} {n : Nat}
    (selection : Selection prompt n chosen) : (fillUp chosen prompt.size n).Nodup := by
  refine List.nodup_append.2 ⟨selection.distinct, ?_, fun i mem j other same => ?_⟩
  · exact (List.nodup_range.filter _).sublist (List.take_sublist _ _)
  · have left := (List.mem_filter.1 (List.mem_of_mem_take other)).2
    rw [← same, List.contains_iff_mem.2 mem] at left
    exact nomatch left

theorem lt_of_mem_fillUp {prompt : Prompt} {chosen : List Nat} {n i : Nat}
    (selection : Selection prompt n chosen) (mem : i ∈ fillUp chosen prompt.size n) :
    i < prompt.size := by
  rcases List.mem_append.1 mem with mem | other
  · exact selection.options i mem
  · exact List.mem_range.1 (List.mem_filter.1 (List.mem_of_mem_take other)).1

def discardable (g : Game) (p : PlayerId) (eligible : Option (List CardId)) : List CardId :=
  match eligible with
  | some cards => (g.player p).hand.cards.filter cards.contains
  | none => (g.player p).hand.cards

/-- The cards that a player discards: those chosen, filled up from the front. -/
def thrown (g : Game) (p : PlayerId) (count : Amount) (eligible : Option (List CardId)) :
    List CardId :=
  let options := discardable g p eligible
  let n := min count.times options.length
  let chosen := (StateT.run (Step.chooseMany p (.discard options n) n) g).1
  (fillUp chosen options.length n).filterMap (options[·]?)

theorem forM_named (options : List CardId) (act : CardId → Act Unit) (indices : List Nat) :
    (indices.forM fun i => match options[i]? with
      | none => return
      | some a => act a) = (indices.filterMap (options[·]?)).forM act := by
  induction indices with
  | nil => rfl
  | cons i rest ih =>
    rw [List.filterMap_cons, List.forM, ih]
    cases options[i]? with
    | none => exact pure_bind _ _
    | some a => rfl

theorem ends_discardEach {done : List CardId} (options : List CardId) (indices : List Nat) :
    Ends (Piled done g) (indices.forM fun i =>
      match options[i]? with
      | none => return
      | some c => do
        moveCard c .pile .top
        Step.emit .discard (.card c))
      (fun _ => Piled (done ++ indices.filterMap (options[·]?)) g) fun _ _ => True := by
  rw [forM_named]
  generalize indices.filterMap (options[·]?) = given
  induction given generalizing done with
  | nil =>
    rw [List.append_nil]
    exact ends_pure fun h piled => piled
  | cons c rest ih =>
    rw [List.append_cons]
    exact ((ends_moveToPile c).bind fun _ => ends_emit_piled _ _).bind fun _ => ih

theorem ends_discard_thrown (p : PlayerId) (count : Amount) (eligible : Option (List CardId)) :
    Ends (fun h => h = g) (discard p count eligible) (fun _ => Piled (thrown g p count eligible) g)
      fun _ _ => True := by
  refine ends_readGiven.bind fun known => .given fun same => ?_
  subst same
  refine Ends.bind (Q := fun chosen h => chosen = (StateT.run (Step.chooseMany p
    (.discard (discardable known p eligible)
      (min count.times (discardable known p eligible).length))
    (min count.times (discardable known p eligible).length)) known).1 ∧ Piled [] known h)
      ?_ fun chosen => ?_
  · refine ends_lift fun h same => ?_
    subst same
    exact ⟨rfl, Step.keeps_chooseMany (Piled.blind [] h) p _ _ h (Piled.none h)⟩
  · refine .given fun same => ?_
    subst same
    exact ends_discardEach _ _

theorem mem_givenUp {p : PlayerId} {m : CardMatch} {cards : List CardId} {d : CardId}
    (mem : d ∈ givenUp g p m cards) : d ∈ cards ∧ g.controlsOnBoard p d := by
  unfold givenUp at mem
  dsimp only at mem
  refine List.mem_filter.1 ?_
  split at mem
  · obtain ⟨k, -, picked⟩ := Option.bind_eq_some_iff.1 (Option.mem_toList.1 mem)
    exact List.mem_of_getElem? picked
  · exact mem

theorem length_thrown (p : PlayerId) (count : Amount) (eligible : Option (List CardId)) :
    (thrown g p count eligible).length = min count.times (discardable g p eligible).length := by
  let prompt : Prompt :=
    .discard (discardable g p eligible) (min count.times (discardable g p eligible).length)
  have selection :=
    Step.chooseMany_selects p prompt (min count.times (discardable g p eligible).length) g
  rw [← length_fillUp selection (Nat.min_le_right _ _)]
  refine List.filterMap_length_eq_length.2 fun i mem => ?_
  rw [List.getElem?_eq_getElem (lt_of_mem_fillUp selection mem)]
  rfl

theorem nodup_thrown {p : PlayerId} {eligible : Option (List CardId)}
    (distinct : (discardable g p eligible).Nodup) (count : Amount) :
    (thrown g p count eligible).Nodup := by
  let prompt : Prompt :=
    .discard (discardable g p eligible) (min count.times (discardable g p eligible).length)
  have selection :=
    Step.chooseMany_selects p prompt (min count.times (discardable g p eligible).length) g
  refine List.Nodup.filterMap (fun i j d first second => ?_) (nodup_fillUp selection)
  obtain ⟨inRange, -⟩ := List.getElem?_eq_some_iff.1 first
  exact (List.getElem?_inj inRange distinct).1 (first.trans second.symm)

theorem mem_hand_of_discardable {p : PlayerId} {eligible : Option (List CardId)} {d : CardId}
    (mem : d ∈ discardable g p eligible) : d ∈ (g.player p).hand.cards := by
  cases eligible with
  | none => exact mem
  | some cards => exact (List.mem_filter.1 mem).1

theorem mem_thrown {p : PlayerId} {count : Amount} {eligible : Option (List CardId)} {d : CardId}
    (mem : d ∈ thrown g p count eligible) : d ∈ discardable g p eligible := by
  obtain ⟨i, -, found⟩ := List.mem_filterMap.1 mem
  exact List.mem_of_getElem? found

end Act

/-- What a sacrifice takes: cards of the player on a board that match, all of them, or the one that
is picked among several in the singular. -/
structure Sacrificed (p : PlayerId) (m : CardMatch) (matching given : List CardId)
    (g h : Game) : Prop
    extends Piled given g h where
  own : ∀ d ∈ given, d ∈ matching ∧ g.controlsOnBoard p d
  every : m.hasTarget ∨ m.isPlural ∨ (matching.filter (g.controlsOnBoard p)).length ≤ 1 →
    given = matching.filter (g.controlsOnBoard p)
  picked : m.hasTarget = false → m.isPlural = false →
    1 < (matching.filter (g.controlsOnBoard p)).length →
    given = ((StateT.run (Step.chooseOne p (.card (matching.filter (g.controlsOnBoard p))))
      g).1.bind
      fun i => (matching.filter (g.controlsOnBoard p))[i]?).toList

/-- What a discard takes: different cards in the player's hand that are eligible, as many as there
are, up to the number asked for. -/
structure Discarded (p : PlayerId) (count : Amount) (eligible : Option (List CardId))
    (given : List CardId) (g h : Game) : Prop extends Piled given g h where
  own : ∀ d ∈ given, (g.card? d).any fun i => i.zone == .hand && i.owner == p
  matching : ∀ cards, eligible = some cards → ∀ d ∈ given, d ∈ cards
  distinct : given.Nodup
  number : given.length = min count.times (Act.discardable g p eligible).length

namespace ZonesAgree

variable {g : Game} (agree : ZonesAgree g) {p : PlayerId} {eligible : Option (List CardId)}
include agree

theorem inHand_of_discardable {d : CardId} (mem : d ∈ Act.discardable g p eligible) :
    (g.card? d).any fun i => i.zone == .hand && i.owner == p := by
  have held : d ∈ (g.player p).holds .hand := Act.mem_hand_of_discardable mem
  obtain ⟨i, found⟩ := Option.isSome_iff_exists.1 (agree.known_of_holds held)
  obtain ⟨owner, zone⟩ := ((agree d).housed i found).eq_of_holds held
  simp [found, ← owner, ← zone]

theorem nodup_discardable (p : PlayerId) (eligible : Option (List CardId)) :
    (Act.discardable g p eligible).Nodup := by
  have hand : (g.player p).hand.cards.Nodup := agree.nodup_holds p .hand
  cases eligible with
  | none => exact hand
  | some cards => exact hand.filter _

end ZonesAgree

namespace Act

variable {g h : Game} {r s : Resolution} {e : PlannedEffect}

theorem sacrificed_of_run {m : CardMatch} (acts : e.effect = .player (.sacrifice m))
    (unpicked : e.subjectsPicked = false) (plain : e.subject = none ∧ e.optional = false)
    (ran : StateT.run (ExceptT.run (resolveEffect r e)) g = (.ok s, h)) :
    s.use.sacrificed = r.use.sacrificed ++
        givenUp g r.use.controller m (cardsOf (g.objectsFor r.use e)) ∧
      Sacrificed r.use.controller m (cardsOf (g.objectsFor r.use e))
        (givenUp g r.use.controller m (cardsOf (g.objectsFor r.use e))) g h := by
  rw [run_resolveEffect_plain acts unpicked plain] at ran
  have applied : Ends (fun k => k = g) (do
      let v ← applyToPlayer r.use (.sacrifice m) r.use.controller (g.objectsFor r.use e)
      return ⟨v, r.consents⟩ : Act Resolution)
      (fun s k => s.use.sacrificed = r.use.sacrificed ++
          givenUp g r.use.controller m (cardsOf (g.objectsFor r.use e)) ∧
        Piled (givenUp g r.use.controller m (cardsOf (g.objectsFor r.use e))) g k) fun _ _ =>
          True := by
    refine Ends.bind (ends_sacrifice_givenUp r.use r.use.controller m _) fun v => ?_
    exact ends_pure fun k given => ⟨congrArg AbilityUse.sacrificed given.1, given.2⟩
  obtain ⟨listed, piled⟩ := applied.success rfl ran
  refine ⟨listed, { piled with own := fun d mem => mem_givenUp mem, every := ?_, picked := ?_ }⟩
  · intro all
    unfold givenUp
    refine if_neg fun several => ?_
    simp only [Bool.and_eq_true, Bool.not_eq_true', decide_eq_true_eq] at several
    obtain targeted | plural | few := all
    · rw [several.1.1] at targeted
      exact nomatch targeted
    · rw [several.1.2] at plural
      exact nomatch plural
    · omega
  · intro untargeted singular several
    unfold givenUp
    exact if_pos (by simp [untargeted, singular, several])

theorem discarded_of_run (agree : ZonesAgree g) {count : Quantity} {filter : Option CardMatch}
    (acts : e.effect = .player (.discard count filter))
    (unpicked : e.subjectsPicked = false) (plain : e.subject = none ∧ e.optional = false)
    (ran : StateT.run (ExceptT.run (resolveEffect r e)) g = (.ok s, h)) :
    ∃ given, Discarded r.use.controller (count.value r.use.x)
      (filter.map fun _ => cardsOf (g.objectsFor r.use e)) given g h := by
  rw [run_resolveEffect_plain acts unpicked plain] at ran
  have applied : Ends (fun k => k = g) (do
      let v ← applyToPlayer r.use (.discard count filter) r.use.controller (g.objectsFor r.use e)
      return ⟨v, r.consents⟩ : Act Resolution)
      (fun _ => Piled (thrown g r.use.controller (count.value r.use.x)
        (filter.map fun _ => cardsOf (g.objectsFor r.use e))) g) fun _ _ => True := by
    refine Ends.bind (Q := fun _ => Piled _ g) ?_ fun _ => ends_pure fun k piled => piled
    exact (ends_discard_thrown r.use.controller _ _).bind fun _ => ends_pure fun k piled => piled
  have distinct := agree.nodup_discardable r.use.controller
    (filter.map fun _ => cardsOf (g.objectsFor r.use e))
  refine ⟨_, { applied.success rfl ran with
    own := fun d mem => agree.inHand_of_discardable (mem_thrown mem)
    matching := fun cards same d mem => ?_
    distinct := nodup_thrown distinct _, number := length_thrown _ _ _ }⟩
  have among := mem_thrown mem
  rw [same] at among
  exact List.contains_iff_mem.1 (List.mem_filter.1 among).2

end Act

def SingleEffect.isPayment : SingleEffect → Bool
  | .player (.sacrifice _) => true
  | .player (.discard _ _) => true
  | .player (.payEssence _) => true
  | .player (.payLife _) => true
  | _ => false

/-- What was sacrificed for a use is on no board. -/
def Gone (u : AbilityUse) (g : Game) : Prop :=
  ∀ d ∈ u.sacrificed, ∀ p, g.controlsOnBoard p d = false

theorem Piled.offBoard {cards : List CardId} {g h : Game} (piled : Piled cards g h) {d : CardId}
    {p : PlayerId} (off : d ∈ cards ∨ g.controlsOnBoard p d = false) :
    h.controlsOnBoard p d = false := by
  by_cases mem : d ∈ cards
  · obtain ⟨i, found, zone⟩ := Option.map_eq_some_iff.1 (piled.piled d mem)
    rw [Game.controlsOnBoard, found, Option.any_some, zone]
    rfl
  · rw [Game.controlsOnBoard, piled.others d mem]
    exact off.resolve_left mem

namespace Gone

variable {u : AbilityUse} {g h : Game}

theorem of_cards (gone : Gone u g) (same : h.cards = g.cards) : Gone u h := by
  intro d mem p
  rw [Game.controlsOnBoard, Game.card?, same]
  exact gone d mem p

theorem piled {cards : List CardId} (gone : Gone u g) (piled : Piled cards g h) : Gone u h :=
  fun d mem p => piled.offBoard (.inr (gone d mem p))

theorem sacrifice {cards : List CardId} (gone : Gone u g) (piled : Piled cards g h) :
    Gone { u with sacrificed := u.sacrificed ++ cards } h := by
  intro d mem p
  exact piled.offBoard ((List.mem_append.1 mem).symm.imp_right fun before => gone d before p)

theorem emit (kind : EventKind) (subject : ObjectRef) :
    Step.Keeps (Gone u) (Step.emit kind subject) :=
  fun _ gone => gone.of_cards (Step.emit_cards _ _ _)

theorem blind (u : AbilityUse) : BlindToTalk (Gone u) :=
  fun _ _ _ gone => gone.of_cards rfl

theorem loseLife (p : PlayerId) (n : Amount) : Step.Keeps (Gone u) (Step.loseLife p n) := by
  have taken : Step.Keeps (Gone u) (modify (·.modifyPlayer p fun s =>
      { s with life := Amount.minus s.life n }) : Step Unit) :=
    Step.keeps_modify fun g gone => gone.of_cards rfl
  refine taken.bind fun _ => (emit _ _).bind fun _ => Step.keeps_get.bind fun g => ?_
  dsimp only
  split
  · exact emit _ _
  · exact Step.keeps_pure ()

end Gone

namespace Act

theorem ends_applyToPlayer_gone (u : AbilityUse) {e : PlayerEffect}
    (payment : (SingleEffect.player e).isPayment) (p : PlayerId) (objects : List ObjectRef) :
    Ends (Gone u) (applyToPlayer u e p objects) Gone fun _ _ => True := by
  have unchanged : ∀ g, Gone u g → Gone u g := fun _ gone => gone
  unfold applyToPlayer
  cases e with
  | sacrifice m =>
    exact fun g gone => ((ends_sacrifice_givenUp u p m _).after fun v h given =>
      given.1 ▸ gone.sacrifice given.2) g rfl
  | discard count filter =>
    refine Ends.bind (Q := fun _ => Gone u) ?_ fun _ => ends_pure unchanged
    intro g gone
    exact ((ends_discard_thrown p _ _).after fun _ h piled => gone.piled piled) g rfl
  | payEssence costs =>
    exact (ends_modifyThe (Q := fun _ => Gone u) fun _ gone => gone.of_cards rfl).bind fun _ =>
      ends_pure unchanged
  | payLife amount => exact (ends_step (Gone.loseLife p _)).bind fun _ => ends_pure unchanged
  | _ => exact nomatch payment

theorem ends_resolveEffect_gone {r : Resolution} {e : PlannedEffect}
    (payment : e.effect.isPayment) :
    Ends (Gone r.use) (resolveEffect r e) (fun s => Gone s.use) fun _ _ => True := by
  have applied : ∀ effect, (SingleEffect.player effect).isPayment → ∀ objects (r : Resolution) p,
      Ends (Gone r.use) (resolveForPlayer e effect objects r p) (fun s => Gone s.use) fun _ _ =>
        True := by
    intro effect payment objects r p
    have answered : ∀ accepted answers, Ends (Gone r.use) (if accepted = true then do
        return ⟨← applyToPlayer r.use effect p objects, answers⟩
      else return ⟨r.use, answers⟩ : Act Resolution) (fun s => Gone s.use) fun _ _ => True := by
      intro accepted answers
      split
      · exact (ends_applyToPlayer_gone r.use payment p objects).bind fun v =>
          ends_pure fun _ gone => gone
      · exact ends_pure fun _ gone => gone
    unfold resolveForPlayer
    split
    · have asked : Step.Keeps (Gone r.use) (consents r.consents e.group p) := by
        unfold consents
        split
        · exact Step.keeps_pure _
        · exact (Step.keeps_chooseOne (Gone.blind _) _ _).bind fun _ => Step.keeps_pure _
      exact (ends_step asked).bind fun a => answered a.1 a.2
    · exact answered true r.consents
  refine (ends_getThe (Q := fun _ => Gone r.use) fun _ gone => gone).bind fun g => ?_
  dsimp only
  split
  · next effect same =>
    rw [same] at payment
    exact Ends.foldlM (R := fun s => Gone s.use) (fun s p _ => applied effect payment _ s p) r
  · next effect same =>
    rw [same] at payment
    exact nomatch payment

end Act

/-- How the costs of a use are paid, one after the other. A mandatory sacrifice or discard of the
controller takes what there is when its turn comes. -/
structure CostsInTurn (u : AbilityUse) (start : Game) (before : List PlannedEffect)
    (e : PlannedEffect) (r : Resolution) (g : Game) (s : Resolution) (h : Game) : Prop where
  earlier : StateT.run
    (ExceptT.run (before.foldlM Act.resolveEffect ⟨u, []⟩ : Act Resolution)) start =
    (.ok r, g)
  own : StateT.run (ExceptT.run (Act.resolveEffect r e)) g = (.ok s, h)
  sacrifice : ∀ m, e.effect = .player (.sacrifice m) → e.subject = none → e.optional = false →
    ∃ given, s.use.sacrificed = r.use.sacrificed ++ given ∧
      Sacrificed u.controller m (cardsOf (g.objectsFor r.use e)) given g h ∧
      ((∀ d ∈ before, d.effect.isPayment) → ∀ c ∈ given, c ∉ r.use.sacrificed)
  discard : ∀ count filter, e.effect = .player (.discard count filter) → e.subject = none →
    e.optional = false → ∃ given, Discarded u.controller (count.value u.x)
      (filter.map fun _ => cardsOf (g.objectsFor r.use e)) given g h

namespace Act

theorem costsInTurn_of_run {u : AbilityUse} {start stop : Game} {last : Resolution}
    (agree : ZonesAgree start) (fresh : u.sacrificed = [])
    (unpicked : ∀ e ∈ u.effects, e.subject = none → e.subjectsPicked = false)
    (ran : StateT.run
      (ExceptT.run (u.effects.foldlM resolveEffect ⟨u, []⟩ : Act Resolution)) start =
      (.ok last, stop)) {before after : List PlannedEffect} {e : PlannedEffect}
    (order : u.effects = before ++ e :: after) :
    ∃ r g s h, CostsInTurn u start before e r g s h := by
  have inOrder : StateT.run (ExceptT.run ((before ++ e :: after).foldlM resolveEffect ⟨u, []⟩ :
      Act Resolution)) start = (.ok last, stop) := order ▸ ran
  rw [List.foldlM_append] at inOrder
  obtain ⟨r, g, earlier, rest⟩ := run_bind_ok inOrder
  rw [List.foldlM_cons] at rest
  obtain ⟨s, h, own, -⟩ := run_bind_ok rest
  have becomes : u.Becomes r.use := (foldlM_becomes before ⟨u, []⟩).success trivial earlier
  have kept := Keeps.foldlM keptByChanges_zonesAgree.keeps_resolveEffect before ⟨u, []⟩
  have agrees : ZonesAgree g := kept.leads.success agree earlier
  have listed : e ∈ u.effects := order ▸ List.mem_append_right _ (.head _)
  refine ⟨r, g, s, h, earlier, own, fun m acts none mandatory => ?_,
    fun count filter acts none mandatory => ?_⟩
  · have taken := sacrificed_of_run acts (unpicked e listed none) ⟨none, mandatory⟩ own
    rw [becomes.controller_eq] at taken
    refine ⟨_, taken.1, taken.2, fun payments c mem => ?_⟩
    have chain : Ends (Gone u) (before.foldlM resolveEffect ⟨u, []⟩ : Act Resolution)
        (fun s => Gone s.use) fun _ _ => True :=
      Ends.foldlM (R := fun s : Resolution => Gone s.use)
        (fun _ d mem => ends_resolveEffect_gone (payments d mem)) ⟨u, []⟩
    have none : Gone u start := fun c listed => nomatch (fresh ▸ listed : c ∈ ([] : List CardId))
    have gone := chain.success none earlier
    intro before
    have owned := (taken.2.own c mem).2
    rw [gone c before] at owned
    exact nomatch owned
  · have taken := discarded_of_run agrees acts (unpicked e listed none) ⟨none, mandatory⟩ own
    rw [becomes.controller_eq, becomes.x_eq] at taken
    exact taken

end Act

def Unmoved (g h : Game) : Prop :=
  ∀ d, Stays d g h

namespace Unmoved

variable {f g h : Game}

theorem of_frame (unmoved : Unmoved f g) (players : h.players = g.players)
    (cards : h.cards = g.cards) :
    Unmoved f h :=
  fun d => (unmoved d).trans (.of_frame players cards d)

theorem blind (g : Game) : BlindToTalk (Unmoved g) :=
  fun _ _ _ unmoved => unmoved.of_frame rfl rfl

theorem emit (kind : EventKind) (subject : ObjectRef) :
    Step.Keeps (Unmoved g) (Step.emit kind subject) :=
  fun h unmoved d => (unmoved d).trans (Step.emit_stays kind subject h d)

theorem marked {f : CardInstance → CardInstance} (marks : Marks f) (k : Game) (c : CardId)
    (unmoved : Unmoved g k) : Unmoved g (k.modifyCard c f) :=
  fun d => (unmoved d).trans (.modifyCard (fun i => by rw [marks i]; rfl) c)

theorem keeps_pay (c : CardId) (costs : List CostSymbol) (x : Amount) :
    Act.Keeps (Unmoved g) (Act.pay c costs x) :=
  Act.keeps_pay_of emit (fun keeps _ p unmoved d => (unmoved d).trans (.accounts keeps p))
    (fun _ h => marked (fun _ => rfl) h c) (fun _ h => marked (fun _ => rfl) h c) x

end Unmoved

theorem Unmoved.length_hand {g h : Game} (unmoved : Unmoved g h) (p : PlayerId) :
    (h.player p).hand.cards.length = (g.player p).hand.cards.length := by
  have perm : (h.player p).hand.cards.Perm (g.player p).hand.cards :=
    List.perm_iff_count.2 fun d => (unmoved d).counts p .hand
  exact perm.length_eq

/-- How the actions are paid that an ability costs, once its symbols are. The use that pays is
numbered and its targets are chosen; no card has moved by then, and its effects are resolved in
turn. A discard that comes first is made in full. -/
structure PaidActions (g : Game) (p : PlayerId) (c : CardId) (a : Activated) (x : Amount)
    (paid : Game) (u : AbilityUse) (start : Game) : Prop where
  picked : ∃ k, StateT.run (Step.pickUse Step.emit (AbilityUse.paying ⟨paid.nextUse⟩ p c a x))
    { paid with nextUse := paid.nextUse + 1 } = (u, k) ∧ start = { k with resolving := some c }
  becomes : (AbilityUse.paying ⟨paid.nextUse⟩ p c a x).Becomes u
  aimed : List.Forall₂ PlannedEffect.Aimed (AbilityUse.paying ⟨paid.nextUse⟩ p c a x).effects
    u.effects
  unmoved : Unmoved g start
  inTurn : ∀ before e after, u.effects = before ++ e :: after → ∃ r k s h,
    CostsInTurn u start before e r k s h
  first : ∀ e after count, u.effects = e :: after → e.effect = .player (.discard count none) →
    e.subject = none → e.optional = false → ∃ s h given,
      StateT.run (ExceptT.run (Act.resolveEffect ⟨u, []⟩ e)) start = (.ok s, h) ∧
        Discarded p (count.value x) none given start h ∧ given.length = (count.value x).times

theorem Game.le_hand_of_canPayEffects {g : Game} {p : PlayerId} {c : CardId} {a : Activated}
    {x : Amount}
    (can : g.canPayEffects p c a x) {id : UseId} {e : PlannedEffect} {after : List PlannedEffect}
    {count : Quantity} (order : (AbilityUse.paying id p c a x).effects = e :: after)
    (discards : e.effect = .player (.discard count none)) :
    (count.value x).times ≤ (g.player p).hand.cards.length := by
  obtain ⟨bill, billed, -, -⟩ := exists_bill_of_canPayEffects can id
  rw [order, List.foldlM_cons] at billed
  obtain ⟨next, first, -⟩ := Option.bind_eq_some_iff.1 billed
  rw [billEffect, discards] at first
  simp only [Option.ite_none_right_eq_some] at first
  have enough : (count.value (AbilityUse.paying ⟨0⟩ p c a x).x).times ≤
      (g.player (AbilityUse.paying ⟨0⟩ p c a x).controller).hand.cards.length := first.1.2
  rwa [AbilityUse.x_paying, AbilityUse.controller_paying] at enough

namespace Act

theorem run_of_onBehalfOf {α : Type} {c : CardId} {act : Act α} {g h : Game} {a : α}
    (ran : StateT.run (ExceptT.run (onBehalfOf c act)) g = (.ok a, h)) :
    ∃ k, StateT.run (ExceptT.run act) { g with resolving := some c } = (.ok a, k) := by
  rw [run_onBehalfOf] at ran
  exact ⟨_, run_of_result (congrArg Prod.fst ran)⟩

theorem run_first {u : AbilityUse} {start k h : Game} {e : PlannedEffect} {r s : Resolution}
    (turn : CostsInTurn u start [] e r k s h) : r = ⟨u, []⟩ ∧ k = start := by
  have earlier : (Except.ok ⟨u, []⟩, start) = ((.ok r, k) : Except EngineError Resolution × Game) :=
    turn.earlier
  rw [Prod.mk.injEq, Except.ok.injEq] at earlier
  exact ⟨earlier.1.symm, earlier.2.symm⟩

theorem run_pickUse_of_nil {u : AbilityUse} (none : u.effects = []) (g : Game) :
    StateT.run (Step.pickUse Step.emit u) g = (u, g) := by
  obtain ⟨id, kind, source, controller, effects⟩ := u
  obtain rfl : effects = [] := none
  rfl

theorem discarded_of_first {g start k h : Game} {p : PlayerId} {c : CardId} {a : Activated}
    {x : Amount}
    (can : g.canPayEffects p c a x) (unmoved : Unmoved g start) {id : UseId} {u : AbilityUse}
    (becomes : (AbilityUse.paying id p c a x).Becomes u)
    (aimed : List.Forall₂ PlannedEffect.Aimed (AbilityUse.paying id p c a x).effects u.effects)
    {e : PlannedEffect} {after : List PlannedEffect} (order : u.effects = e :: after)
    {count : Quantity}
    (discards : e.effect = .player (.discard count none)) (none : e.subject = none)
    (mandatory : e.optional = false) {r s : Resolution} (turn : CostsInTurn u start [] e r k s h) :
    ∃ given, StateT.run (ExceptT.run (resolveEffect ⟨u, []⟩ e)) start = (.ok s, h) ∧
      Discarded p (count.value x) .none given start h ∧ given.length = (count.value x).times := by
  obtain ⟨rfl, rfl⟩ := run_first turn
  obtain ⟨given, discarded⟩ := turn.discard count _ discards none mandatory
  rw [becomes.controller_eq, becomes.x_eq, AbilityUse.controller_paying,
    AbilityUse.x_paying] at discarded
  refine ⟨given, turn.own, discarded, discarded.number.trans (Nat.min_eq_left ?_)⟩
  rw [order] at aimed
  obtain ⟨planned, rest, aim, -, list⟩ := List.forall₂_cons_right_iff.1 aimed
  have enough := Game.le_hand_of_canPayEffects can list (aim.effect_eq.symm.trans discards)
  exact Nat.le_trans enough (Nat.le_of_eq (unmoved.length_hand p).symm)

theorem paidActions_of_run {g paid h : Game} {p : PlayerId} {c : CardId} {a : Activated}
    {x : Amount} {v : AbilityUse} (agree : ZonesAgree g) (can : g.canPayEffects p c a x)
    (unmoved : Unmoved g paid)
    (ran : StateT.run (ExceptT.run (payActions (AbilityUse.paying ⟨paid.nextUse⟩ p c a x)))
      { paid with nextUse := paid.nextUse + 1 } = (.ok v, h)) :
    ∃ u start, PaidActions g p c a x paid u start := by
  replace unmoved : Unmoved g { paid with nextUse := paid.nextUse + 1 } := unmoved.of_frame rfl rfl
  unfold payActions at ran
  split at ran
  · next none =>
    have empty := List.isEmpty_iff.1 none
    refine ⟨_, _, ⟨_, run_pickUse_of_nil empty _, rfl⟩, .refl _, ?_, unmoved.of_frame rfl rfl,
      fun before e after order => ?_, fun e after count order => ?_⟩
    · rw [empty]
      exact .nil
    · rw [empty] at order
      exact nomatch List.append_eq_nil_iff.1 order.symm
    · exact nomatch empty.symm.trans order
  · obtain ⟨u, k, picked, rest⟩ := run_bind_ok ran
    obtain ⟨w, h, resolved, -⟩ := run_bind_ok rest
    have aims := (gives_lift (Step.pickUse_aims Step.emit _)).success trivial picked
    have aimed := (gives_lift (Step.pickUse_aimed Step.emit _)).success trivial picked
    have kept := keeps_lift (Step.keeps_pickUse (Unmoved.blind g) (Unmoved.emit .target)
      (AbilityUse.paying ⟨paid.nextUse⟩ p c a x))
    have inside : Unmoved g { k with resolving := some u.source } :=
      (kept.leads.success unmoved picked).of_frame rfl rfl
    have fresh : u.sacrificed = [] :=
      aims.sacrificed_eq.trans (AbilityUse.sacrificed_prepareClauses _ _)
    have unpicked : ∀ e ∈ u.effects, e.subject = none → e.subjectsPicked = false := by
      intro d mem none
      obtain ⟨planned, listed, aim⟩ := PlannedEffect.Aimed.exists_of_mem aimed mem
      rw [aim.unnamed (aim.subject_eq.symm.trans none)]
      exact AbilityUse.unpicked_of_paying listed
    obtain ⟨l, effects⟩ := run_of_onBehalfOf resolved
    obtain ⟨s, l, folded, -⟩ := run_bind_ok effects
    have turns : ∀ before e after, u.effects = before ++ e :: after → ∃ r k s h,
        CostsInTurn u _ before e r k s h :=
      fun _ _ _ => costsInTurn_of_run (agree.of_stays inside) fresh unpicked folded
    have source := aims.becomes.source_eq.trans (AbilityUse.source_paying ..)
    have started := congrArg (fun d => { k with resolving := some d }) source
    refine ⟨u, _, ⟨k, run_of_lift picked, started⟩, aims.becomes, aimed, inside, turns,
      fun e after count order discards none mandatory => ?_⟩
    obtain ⟨r, k, s, h, turn⟩ := turns [] e after order
    exact ⟨s, h, discarded_of_first can inside aims.becomes aimed order discards none
      mandatory turn⟩

theorem activateFor_pays {g asked h : Game} (agree : ZonesAgree g) {p : PlayerId} {c : CardId}
    {a : Activated} {x : Amount} (can : g.canPayEffects p c a x) (unmoved : Unmoved g asked)
    (ran : StateT.run (ExceptT.run (activateFor p c a x)) asked = (.ok (), h)) :
    ∃ paid u start, StateT.run (ExceptT.run (pay c a.resourceCosts x)) asked = (.ok (), paid) ∧
      PaidActions g p c a x paid u start := by
  obtain ⟨⟨⟩, paid, symbols, rest⟩ := run_bind_ok ran
  obtain ⟨id, k, numbered, rest⟩ := run_bind_ok rest
  obtain ⟨v, k', actions, -⟩ := run_bind_ok rest
  obtain ⟨rfl, rfl⟩ := Prod.mk.inj (run_of_lift numbered)
  have kept : Unmoved g paid := (Unmoved.keeps_pay c _ x).leads.success unmoved symbols
  obtain ⟨u, start, pays⟩ := paidActions_of_run agree can kept actions
  exact ⟨paid, u, start, symbols, pays⟩

end Act

/-- An ability that was activated could be paid for. Its player was asked for x at most, its symbols
were paid, and then the actions that it costs were paid in turn. -/
theorem Reached.activate_pays {g h : Game} (reached : Reached g) {p : PlayerId} {c : CardId}
    {index : Nat} (ran : StateT.run (ExceptT.run (Act.activate p c index)) g = (.ok (), h)) :
    ∃ i a x, g.card? c = some i ∧ i.activatedAbilities[index]? = some a ∧ g.canPayAbility p c a x ∧
      ∃ asked, Talks p g asked ∧
        StateT.run (ExceptT.run (Act.activateFor p c a x)) asked = (.ok (), h) ∧
        ∃ paid u start, StateT.run (ExceptT.run (Act.pay c a.resourceCosts x)) asked =
          (.ok (), paid) ∧
          PaidActions g p c a x paid u start := by
  have ends : Act.Ends (fun k => k = g) (Act.activate p c index) (fun _ h => ∃ i a x,
      g.card? c = some i ∧ i.activatedAbilities[index]? = some a ∧ g.canPayAbility p c a x ∧
        ∃ asked, Talks p g asked ∧
          StateT.run (ExceptT.run (Act.activateFor p c a x)) asked = (.ok (), h)) fun _ _ =>
            True := by
    refine Act.ends_activate_of (fun offer : False => offer.elim) (fun _ _ _ => trivial)
      fun i a x found _ listed _ payable _ asked talks => ?_
    cases carried : StateT.run (ExceptT.run (Act.activateFor p c a x)) asked with
    | mk result h =>
      cases result with
      | error e => trivial
      | ok _ => exact ⟨i, a, x, found, listed, payable, asked, talks, carried⟩
  obtain ⟨i, a, x, found, listed, payable, asked, talks, carried⟩ := ends.success rfl ran
  have unmoved : Unmoved g asked := Unmoved.of_frame (fun d => .refl d g) talks.sameTable.players
    talks.sameTable.cards
  have pays :=
    Act.activateFor_pays (.of_reached reached) (Bool.and_eq_true_iff.1 payable).2 unmoved carried
  exact ⟨i, a, x, found, listed, payable, asked, talks, carried, pays⟩

/-- An ability that costs two units, each asked for on its own. -/
def Activated.altar : Activated :=
  let cost : AbilityCost := .effect (.player none false
    [.sacrifice [.filter ⟨none, [.kind ⟨.unit, false⟩], none, none, []⟩]])
  ⟨[cost, cost], ⟨[.player none false [.draw (.number 1)]]⟩⟩

/-- An altar takes the only unit for both of its costs: each of them was affordable, and when the
second one is paid there is no unit left. -/
theorem activate_pays_altar :
    ∃ start, Game.create {} [⟨[((Card.blank "Altar").withKind ⟨.item, false⟩).withAbility
        (.activated .altar), (Card.blank "Squire").withKind ⟨.unit, false⟩], .pass⟩, ⟨[], .pass⟩] =
        .ok start ∧
      let g := Operation.performAll start [.draw ⟨0⟩ 2, .enterPhase .play, .cast ⟨0⟩ ⟨0⟩ none,
        .resolveTop, .cast ⟨0⟩ ⟨1⟩ none, .resolveTop]
      let activated := StateT.run (ExceptT.run (Act.activate ⟨0⟩ ⟨0⟩ 0)) g
      activated.1 = .ok () ∧ (activated.2.player ⟨0⟩).pile.cards = [⟨1⟩] ∧
        (activated.2.player ⟨0⟩).board.cards = [⟨0⟩] ∧
        ∃ i a x, g.card? ⟨0⟩ = some i ∧ i.activatedAbilities[0]? = some a ∧
          g.canPayAbility ⟨0⟩ ⟨0⟩ a x ∧ ∃ asked, Talks ⟨0⟩ g asked ∧
            StateT.run (ExceptT.run (Act.activateFor ⟨0⟩ ⟨0⟩ a x)) asked = (.ok (), activated.2) ∧
            ∃ paid u start,
              StateT.run (ExceptT.run (Act.pay ⟨0⟩ a.resourceCosts x)) asked = (.ok (), paid) ∧
                PaidActions g ⟨0⟩ ⟨0⟩ a x paid u start := by
  refine ⟨_, rfl, by decide +kernel, by decide +kernel, by decide +kernel, ?_⟩
  refine Reached.activate_pays ?_ (Act.run_of_result (by decide +kernel))
  exact reached_performAll {} [⟨[((Card.blank "Altar").withKind ⟨.item, false⟩).withAbility
    (.activated .altar), (Card.blank "Squire").withKind ⟨.unit, false⟩], .pass⟩, ⟨[], .pass⟩] rfl _

end CardGame
