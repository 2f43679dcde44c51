import CardGame.Proofs.Essence
import CardGame.Proofs.Offers

/-!
The values for x that a player is offered. The question goes from zero up to what the pool holds
beyond the fixed part of a cost, where x counts once however often it is printed, and where a
negative literal lowers the sum that no payment gives back. So a cost that prints x twice is offered
values that it cannot be paid with; the check after the answer then refuses the card.
-/

namespace CardGame

namespace Amount

theorem toInt_clamp_eq (n : Int) :
    (clamp n).toInt = max Int64.minValue.toInt (min n Int64.maxValue.toInt) := by
  have range : Int64.minValue.toInt ≤ Int64.maxValue.toInt := by decide
  by_cases low : Int64.minValue.toInt ≤ n
  · by_cases high : n ≤ Int64.maxValue.toInt
    · rw [toInt_clamp low high]
      omega
    · rw [clamp, Int64.ofIntClamp, dif_pos low, dif_neg high]
      omega
  · rw [clamp, Int64.ofIntClamp, dif_neg low]
    omega

theorem times_ofNat {n : Nat} (small : n ≤ Int64.maxValue.toInt) : times (Int64.ofNat n) = n := by
  have range : Int64.maxValue.toInt = 2 ^ 63 - 1 := by decide
  rw [times, Int64.toInt_ofNat_of_lt (by omega)]
  exact Int.toNat_natCast n

end Amount

namespace CostSymbol

def fixedPart : CostSymbol → Amount
  | .essence _ => 1
  | .generic q => q.value 0
  | _ => 0

theorem fixedPart_nonnegative_iff (costs : List CostSymbol) :
    (∀ symbol ∈ costs, 0 ≤ symbol.fixedPart) ↔ ∀ n, .generic (.number n) ∈ costs → 0 ≤ n := by
  constructor
  · exact fun parts n mem => parts _ mem
  · intro literals symbol mem
    cases symbol with
    | generic q =>
      cases q with
      | number n => exact literals n mem
      | one => exact (by decide : (0 : Amount) ≤ 1)
      | x => exact Int64.le_refl 0
    | essence e => exact (by decide : (0 : Amount) ≤ 1)
    | _ => exact Int64.le_refl 0

end CostSymbol

namespace EssencePool

/-- The tokens that a cost takes when x is zero. -/
def least (costs : List CostSymbol) : Nat :=
  (colors costs).length + points costs 0

theorem least_cons (symbol : CostSymbol) (rest : List CostSymbol) :
    least (symbol :: rest) = symbol.fixedPart.times + least rest := by
  cases symbol with
  | essence e =>
    change (colors rest).length + 1 + points rest 0 = 1 + least rest
    rw [least]
    omega
  | generic q =>
    change (colors rest).length + ((q.value 0).times + points rest 0) = (q.value 0).times +
      least rest
    rw [least]
    omega
  | _ => exact (Nat.zero_add _).symm

theorem points_eq (costs : List CostSymbol) (x : Amount) :
    points costs x = points costs 0 + costs.count (.generic .x) * x.times := by
  induction costs with
  | nil => simp [points]
  | cons symbol rest ih =>
    cases symbol with
    | generic q =>
      cases q with
      | x =>
        rw [points, points, ih, List.count_cons_self, Nat.succ_mul]
        change x.times + _ = 0 + _ + _
        omega
      | number n => simp [points, ih, Quantity.value, Nat.add_assoc]
      | one => simp [points, ih, Quantity.value, Nat.add_assoc]
    | _ => simpa [points] using ih

end EssencePool

namespace Step

theorem fixedCost_eq (costs : List CostSymbol) :
    fixedCost costs = costs.foldl (fun total symbol => Amount.plus total symbol.fixedPart) 0 := by
  refine congrArg (fun f => costs.foldl f 0) (funext fun total => funext fun symbol => ?_)
  cases symbol <;> rfl

theorem foldl_fixedPart_le (costs : List CostSymbol) (total : Amount) (most : Nat)
    (begins : total.toInt ≤ most) (small : most + EssencePool.least costs ≤ EssencePool.capacity) :
    let sum := costs.foldl (fun total symbol => Amount.plus total symbol.fixedPart) total
    sum.toInt ≤ most + EssencePool.least costs ∧
      (sum.toInt = most + EssencePool.least costs ↔
        total.toInt = most ∧ ∀ symbol ∈ costs, 0 ≤ symbol.fixedPart) := by
  induction costs generalizing total most with
  | nil =>
    refine ⟨Int.le_trans begins (by omega), ?_⟩
    simp [EssencePool.least, EssencePool.colors, EssencePool.points]
  | cons symbol rest ih =>
    have low : Int64.minValue.toInt = -2 ^ 63 := by decide
    have high : Int64.maxValue.toInt = 2 ^ 63 - 1 := by decide
    have added := Amount.toInt_clamp_eq (total.toInt + symbol.fixedPart.toInt)
    have part : (symbol.fixedPart.times : Int) = max 0 symbol.fixedPart.toInt := by
      rw [Amount.times]
      omega
    have sign : 0 ≤ symbol.fixedPart ↔ 0 ≤ symbol.fixedPart.toInt := Int64.le_iff_toInt_le
    have bottom := total.minValue_le_toInt
    rw [EssencePool.least_cons] at small ⊢
    rw [EssencePool.capacity] at small
    have whole : (Amount.plus total symbol.fixedPart).toInt = most + symbol.fixedPart.times ↔
        total.toInt = most ∧ 0 ≤ symbol.fixedPart := by
      rw [Amount.plus, sign]
      omega
    have step := ih (Amount.plus total symbol.fixedPart) (most + symbol.fixedPart.times)
      (by rw [Amount.plus]; omega) (by rw [EssencePool.capacity]; omega)
    rw [Int.natCast_add, whole, Int.add_assoc] at step
    rw [List.foldl_cons, List.forall_mem_cons, ← and_assoc, Int.natCast_add]
    exact step

theorem fixedCost_le {costs : List CostSymbol}
    (small : EssencePool.least costs ≤ EssencePool.capacity) :
    (fixedCost costs).toInt ≤ EssencePool.least costs ∧
      ((fixedCost costs).toInt = EssencePool.least costs ↔
        ∀ n, .generic (.number n) ∈ costs → 0 ≤ n) := by
  have sum := foldl_fixedPart_le costs 0 0 (Int.le_refl 0) (by rwa [Nat.zero_add])
  rw [fixedCost_eq, ← CostSymbol.fixedPart_nonnegative_iff]
  simpa using sum

end Step

namespace Game

/-- The largest value for x that a player is offered for a cost that contains it. -/
def mostX (g : Game) (p : PlayerId) (costs : List CostSymbol) : Nat :=
  (Amount.minus (Int64.ofNat (g.player p).essence.length) (Step.fixedCost costs)).times

variable {g : Game} {p : PlayerId} {c : CardId} {i : CardInstance} {costs : List CostSymbol}

theorem mostX_le (g : Game) (p : PlayerId) (costs : List CostSymbol) :
    g.mostX p costs ≤ Int64.maxValue.toInt := by
  have range :=
    (Amount.minus (Int64.ofNat (g.player p).essence.length) (Step.fixedCost costs)).toInt_le
  have high : Int64.maxValue.toInt = 2 ^ 63 - 1 := by decide
  rw [mostX, Amount.times]
  omega

theorem le_mostX (fits : g.PoolsFit)
    (enough : EssencePool.least costs ≤ (g.player p).essence.length) :
    (g.player p).essence.length ≤ EssencePool.least costs + g.mostX p costs ∧
      ((g.player p).essence.length = EssencePool.least costs + g.mostX p costs ↔
        ∀ n, .generic (.number n) ∈ costs → 0 ≤ n) := by
  have room := fits p
  have low : Int64.minValue.toInt = -2 ^ 63 := by decide
  have high : Int64.maxValue.toInt = 2 ^ 63 - 1 := by decide
  obtain ⟨fixed, whole⟩ := Step.fixedCost_le (Nat.le_trans enough room)
  rw [EssencePool.capacity] at room
  have pool : (Int64.ofNat (g.player p).essence.length).toInt = (g.player p).essence.length :=
    Int64.toInt_ofNat_of_lt (by omega)
  have bottom := (Step.fixedCost costs).minValue_le_toInt
  rw [← whole, mostX, Amount.times, Amount.minus, Amount.toInt_clamp_eq, pool]
  omega

theorem least_add_mostX_le_iff (fits : g.PoolsFit)
    (enough : EssencePool.least costs ≤ (g.player p).essence.length) (asks : .generic .x ∈ costs) :
    EssencePool.least costs + costs.count (.generic .x) * g.mostX p costs ≤
      (g.player p).essence.length ↔
      (∀ n, .generic (.number n) ∈ costs → 0 ≤ n) ∧
        (costs.count (.generic .x) = 1 ∨ (g.player p).essence.length =
          EssencePool.least costs) := by
  obtain ⟨reach, whole⟩ := le_mostX fits enough
  have printed : 0 < costs.count (.generic .x) := List.count_pos_iff.2 asks
  rw [← whole]
  constructor
  · intro last
    have once := Nat.le_mul_of_pos_left (g.mostX p costs) printed
    refine ⟨by omega, ?_⟩
    by_cases none : g.mostX p costs = 0
    · exact .inr (by omega)
    · exact .inl (Nat.eq_of_mul_eq_mul_right (Nat.pos_of_ne_zero none) (by omega))
  · rintro ⟨same, once | none⟩
    · rw [once, Nat.one_mul]
      exact Nat.le_of_eq same.symm
    · rw [show g.mostX p costs = 0 by omega, Nat.mul_zero, none]
      exact Nat.le_refl _

theorem canPay_iff (found : g.card? c = some i) (can : g.canPay c costs 0) (x : Amount) :
    g.canPay c costs x ↔ EssencePool.least costs + costs.count (.generic .x) * x.times ≤
      (g.player i.controller).essence.length := by
  rw [canPay, found] at can ⊢
  obtain ⟨ready, afford⟩ := Bool.and_eq_true_iff.1 can
  have held := ((EssencePool.canAfford_iff _ _ _).1 afford).1
  rw [Bool.and_eq_true_iff, and_iff_right ready, EssencePool.canAfford_iff, and_iff_right held,
    EssencePool.points_eq, EssencePool.least, Nat.add_assoc]

end Game

namespace Step

theorem chooseX_eq {costs : List CostSymbol} (asks : .generic .x ∈ costs) (p : PlayerId)
    (g : Game) :
    StateT.run (chooseX p costs) g = if 0 < g.mostX p costs then
      StateT.run (do
        let chosen ← chooseOne p (.mode ((List.range (g.mostX p costs + 1)).map toString))
        return (chosen.map Int64.ofNat).getD 0 : Step Amount) g
      else (0, g) := by
  have some : 0 < g.mostX p costs ↔
      0 < Amount.minus (Int64.ofNat (g.player p).essence.length) (fixedCost costs) := by
    rw [Game.mostX, Amount.times, Int64.lt_iff_toInt_lt, Int64.toInt_zero]
    omega
  have read : ∀ next : Game → Step Amount, StateT.run (get >>= next) g = StateT.run (next g) g :=
    fun _ => rfl
  rw [chooseX, if_pos (List.contains_iff_mem.2 asks), read]
  dsimp only
  by_cases more : 0 < g.mostX p costs
  · rw [if_pos more, if_pos (some.1 more)]
    rfl
  · rw [if_neg more, if_neg (mt some.2 more)]
    rfl

theorem chooseX_offered {costs : List CostSymbol} (asks : .generic .x ∈ costs) (p : PlayerId)
    (g : Game) :
    ∃ n ≤ g.mostX p costs, (StateT.run (chooseX p costs) g).1 = Int64.ofNat n := by
  rw [chooseX_eq asks]
  split
  · have picked : Gives (do
        let chosen ← chooseOne p (.mode ((List.range (g.mostX p costs + 1)).map toString))
        return (chosen.map Int64.ofNat).getD 0 : Step Amount)
        fun x => ∃ n ≤ g.mostX p costs, x = Int64.ofNat n := by
      refine (chooseOne_selects p _).bind_of fun chosen selected => gives_pure ?_
      cases chosen with
      | none => exact ⟨0, Nat.zero_le _, rfl⟩
      | some n =>
        have few := selected n rfl
        simp only [Prompt.size, List.length_map, List.length_range] at few
        exact ⟨n, Nat.le_of_lt_succ few, rfl⟩
    exact picked g
  · exact ⟨0, Nat.zero_le _, rfl⟩

end Step

namespace Act

variable {g : Game} {p : PlayerId} {c : CardId} {i : CardInstance}

theorem run_affordableX (p : PlayerId) (c : CardId) (affordable : Game → Amount → Bool)
    (first : affordable g 0) (costs : List CostSymbol) :
    StateT.run (ExceptT.run (affordableX p c costs affordable)) g =
      let asked := StateT.run (Step.chooseX p costs) g
      (if affordable asked.2 asked.1 then .ok asked.1 else .error (.insufficientResources c),
        asked.2) := by
  have chosen : StateT.run (ExceptT.run (liftM (Step.chooseX p costs) : Act Amount)) g =
      (.ok (StateT.run (Step.chooseX p costs) g).1, (StateT.run (Step.chooseX p costs) g).2) := rfl
  rw [affordableX, run_bind_of_ok (run_getThe g), run_bind_of_ok (run_require first _ g),
    run_bind_of_ok chosen, run_bind_of_ok (run_getThe _)]
  dsimp only
  split
  · next met => exact run_bind_of_ok (run_require met _ _)
  · next unmet => exact run_bind_of_error (run_require_of_not unmet _ _)

theorem run_fieldFor (room : g.hasRoom p) (c : CardId) (field : Option Nat) :
    field.isSome ∧ StateT.run (ExceptT.run (fieldFor p c field)) g =
      (.error (.notPlayable c .fieldTaken), g) ∨
      ∃ slot, StateT.run (ExceptT.run (fieldFor p c field)) g = (.ok slot, g) := by
  rw [fieldFor, run_bind_of_ok (run_getThe g)]
  cases field with
  | none =>
    obtain ⟨slot, first⟩ := Option.isSome_iff_exists.1 room
    refine .inr ⟨slot, ?_⟩
    dsimp only
    rw [first]
    rfl
  | some slot =>
    by_cases free : (g.player p).board.isFree slot
    · exact .inr ⟨slot, run_bind_of_ok (run_require free _ g)⟩
    · exact .inl ⟨rfl, run_bind_of_error (run_require_of_not free _ g)⟩

theorem run_cast (found : g.card? c = some i) (can : g.canCast p c) (field : Option Nat) :
    (∃ fault, StateT.run (ExceptT.run (cast p c field)) g = (.error (.notPlayable c fault), g)) ∧
        field.isSome ∨
      ∃ slot, StateT.run (ExceptT.run (cast p c field)) g = StateT.run (ExceptT.run do
        let x ← affordableX p c i.card.costs fun g x => g.canPay c i.card.costs x
        castFor p c i slot x) g := by
  obtain ⟨inHand, priority, timing, room, -⟩ := (Game.canCast_iff found).1 can
  have held : StateT.run (ExceptT.run (Act.inHand p c)) g = (.ok i, g) := by
    rw [Act.inHand, run_bind_of_ok (run_card found), run_bind_of_ok (run_require _ _ g)]
    · rfl
    · simpa [Game.isInHand, found] using inHand
  have turn : StateT.run (ExceptT.run (checkPriority p)) g = (.ok (), g) := by
    rw [checkPriority, run_bind_of_ok (run_getThe g)]
    exact run_require (beq_iff_eq.2 priority) _ g
  rw [cast, run_bind_of_ok held, run_bind_of_ok turn, run_bind_of_ok (run_getThe g),
    run_bind_of_ok (run_require timing _ g)]
  split
  · next permanent =>
    rw [map_eq_pure_bind, bind_assoc]
    rcases run_fieldFor (room permanent) c field with ⟨asked, taken⟩ | ⟨slot, chosen⟩
    · exact .inl ⟨⟨_, run_bind_of_error taken⟩, asked⟩
    · exact .inr ⟨some slot, run_bind_of_ok chosen⟩
  · exact .inr ⟨none, rfl⟩

theorem ends_cast_insufficient (agree : ZonesAgree g) (found : g.card? c = some i)
    (can : g.canCast p c) (field : Option Nat) :
    let chosen := (StateT.run (Step.chooseX p i.card.costs) g).1
    (∀ d h, StateT.run (ExceptT.run (cast p c field)) g = (.error (.insufficientResources d), h) →
        ¬ g.canPay c i.card.costs chosen) ∧
      (field = none → ¬ g.canPay c i.card.costs chosen →
        ∃ h, StateT.run (ExceptT.run (cast p c field)) g =
          (.error (.insufficientResources c), h)) := by
  have first := ((Game.canCast_iff found).1 can).2.2.2.2
  have talks := Step.keeps_chooseX (Talks.kept p g) i.card.costs g (.refl p g)
  have asked := run_affordableX p c (fun g x => g.canPay c i.card.costs x) first i.card.costs
  dsimp only at asked ⊢
  rw [talks.sameTable.canPay] at asked
  rcases run_cast found can field with ⟨⟨fault, ran⟩, slot⟩ | ⟨slot, ran⟩
  · refine ⟨fun d h refused => ?_, fun none => ?_⟩
    · rw [ran] at refused
      exact nomatch refused
    · rw [none] at slot
      exact nomatch slot
  · by_cases affordable : g.canPay c i.card.costs (StateT.run (Step.chooseX p i.card.costs) g).1
    · refine ⟨fun d h refused => ?_, fun _ unmet => absurd affordable unmet⟩
      rw [if_pos affordable] at asked
      rw [ran, run_bind_of_ok asked] at refused
      have paid := ends_castFor (F := fun _ _ => False) p (List.mem_singleton_self c) i slot
        (StateT.run (Step.chooseX p i.card.costs) g).1
      exact (paid.failure ⟨knows_of_talks agree found talks,
        (talks.sameTable.canPay c i.card.costs _).trans affordable⟩ refused).elim
    · rw [if_neg affordable] at asked
      exact ⟨fun _ _ _ => affordable, fun _ _ => ⟨_, ran.trans (run_bind_of_error asked)⟩⟩

end Act

/-- What is offered for the x of a card that can be cast, and what comes of it. -/
structure OffersX (g : Game) (p : PlayerId) (c : CardId) (costs : List CostSymbol) : Prop where
  asked : StateT.run (Step.chooseX p costs) g = if 0 < g.mostX p costs then
    StateT.run (do
      let chosen ← Step.chooseOne p (.mode ((List.range (g.mostX p costs + 1)).map toString))
      return (chosen.map Int64.ofNat).getD 0 : Step Amount) g
    else (0, g)
  chosen : ∃ n ≤ g.mostX p costs, (StateT.run (Step.chooseX p costs) g).1 = Int64.ofNat n
  /-- A value can be paid when the pool has the tokens for it at every x of the cost. -/
  payable : ∀ n ≤ g.mostX p costs, (g.canPay c costs (Int64.ofNat n) ↔
    EssencePool.least costs + costs.count (.generic .x) * n ≤ (g.player p).essence.length)
  /-- All of them can be paid when no literal is negative, and x is printed once or has no tokens
  left. -/
  every : (∀ n ≤ g.mostX p costs, g.canPay c costs (Int64.ofNat n)) ↔
    (∀ n, .generic (.number n) ∈ costs → 0 ≤ n) ∧
      (costs.count (.generic .x) = 1 ∨ (g.player p).essence.length = EssencePool.least costs)
  /-- Casting fails for want of essence when the value that was chosen cannot be paid. -/
  refused : (∃ h, StateT.run (ExceptT.run (Act.cast p c none)) g =
    (.error (.insufficientResources c), h)) ↔
    ¬ g.canPay c costs (StateT.run (Step.chooseX p costs) g).1
  refusedOnly : ∀ field d h,
    StateT.run (ExceptT.run (Act.cast p c field)) g = (.error (.insufficientResources d), h) →
      ¬ g.canPay c costs (StateT.run (Step.chooseX p costs) g).1

/-- In every game that can come about, the values that are offered for the x of a card that can be
cast can all be paid when x is printed once and no literal is negative; when x is printed more
often, the values beyond what the pool holds for every x are offered too, and casting fails with one
of them. -/
theorem Reached.offersX {g : Game} (reached : Reached g) {p : PlayerId} {c : CardId}
    {i : CardInstance}
    (found : g.card? c = some i) (can : g.canCast p c) (asks : .generic .x ∈ i.card.costs) :
    OffersX g p c i.card.costs := by
  obtain ⟨inHand, -, -, -, first⟩ := (Game.canCast_iff found).1 can
  have held := (Game.isInHand_iff found).1 inHand
  have own : i.controller = p :=
    ((ZonesAgree.of_reached reached c).housed i found).controlled.trans held.2
  have payable : ∀ n ≤ g.mostX p i.card.costs, (g.canPay c i.card.costs (Int64.ofNat n) ↔
      EssencePool.least i.card.costs + i.card.costs.count (.generic .x) * n ≤
        (g.player p).essence.length) := by
    intro n offered
    have most := g.mostX_le p i.card.costs
    rw [Game.canPay_iff found first, Amount.times_ofNat (by omega), own]
  have enough : EssencePool.least i.card.costs ≤ (g.player p).essence.length :=
    (payable 0 (Nat.zero_le _)).1 first
  have every : (∀ n ≤ g.mostX p i.card.costs, g.canPay c i.card.costs (Int64.ofNat n)) ↔
      EssencePool.least i.card.costs + i.card.costs.count (.generic .x) * g.mostX p i.card.costs ≤
        (g.player p).essence.length := by
    refine ⟨fun all => (payable _ (Nat.le_refl _)).1 (all _ (Nat.le_refl _)),
      fun last n offered => ?_⟩
    have less := Nat.mul_le_mul_left (i.card.costs.count (.generic .x)) offered
    exact (payable n offered).2 (by omega)
  have insufficient := Act.ends_cast_insufficient (.of_reached reached) found can
  exact ⟨Step.chooseX_eq asks p g, Step.chooseX_offered asks p g, payable,
    every.trans (Game.least_add_mostX_le_iff reached.poolsFit enough asks),
    ⟨fun ⟨h, ran⟩ => (insufficient none).1 c h ran, (insufficient none).2 rfl⟩,
    fun field => (insufficient field).1⟩

/-- With one essence in the pool and x printed twice one is offered for x, and casting fails with
it. -/
theorem offersX_flood :
    ∃ start, Game.create {} [⟨[.spring, .flood], fun _ _ => .pick 1⟩, ⟨[], .pass⟩] = .ok start ∧
      let g := Operation.performAll start [.draw ⟨0⟩ 2, .enterPhase .play, .playSource ⟨0⟩ ⟨0⟩,
        .enterPhase .start, .enterPhase .play, .activate ⟨0⟩ ⟨0⟩ 0]
      g.canCast ⟨0⟩ ⟨1⟩ ∧ g.mostX ⟨0⟩ Card.flood.costs = 1 ∧ ¬ g.canPay ⟨1⟩ Card.flood.costs 1 ∧
        OffersX g ⟨0⟩ ⟨1⟩ Card.flood.costs := by
  refine ⟨_, rfl, by decide +kernel, by decide +kernel, by decide +kernel, ?_⟩
  have offers : ∀ (g : Game) (i : CardInstance), Reached g → g.card? ⟨1⟩ = some i →
    i.card = .flood →
      g.canCast ⟨0⟩ ⟨1⟩ → OffersX g ⟨0⟩ ⟨1⟩ Card.flood.costs := by
    intro g i reached found same can
    have asks : .generic .x ∈ i.card.costs := by
      rw [same]
      decide
    exact same ▸ Reached.offersX reached found can asks
  refine offers _ _ ?_ (Option.some_get (by decide +kernel)).symm (by decide +kernel)
    (by decide +kernel)
  exact reached_performAll {} [⟨[.spring, .flood], fun _ _ => .pick 1⟩, ⟨[], .pass⟩] rfl _

end CardGame
