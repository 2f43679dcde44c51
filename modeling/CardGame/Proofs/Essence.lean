import CardGame.Proofs.Paying
import Mathlib.Data.List.Count

/-!
Payments out of a pool. A cost can be paid when the pool holds its colors and as many tokens as it
has symbols and points; generic points take generic tokens first and then whatever comes first,
which may be a color that a later payment asks for. So a sum of costs that can be paid at once may
not be paid one after the other: what decides about a later payment is whether its colors are still
there.
-/

namespace CardGame

namespace EssencePool

def colors (costs : List CostSymbol) : List EssenceToken :=
  costs.filterMap fun
    | .essence e => some (.colored e)
    | _ => none

def points : List CostSymbol → Amount → Nat
  | [], _ => 0
  | .generic q :: rest, x => (q.value x).times + points rest x
  | _ :: rest, x => points rest x

/-- What is left of a pool after a payment that is skipped when it cannot be made in full. -/
def spend (pool : EssencePool) (costs : List CostSymbol) (x : Amount) : EssencePool :=
  if pool.canAfford costs x then (pool.pay costs x).2 else pool

theorem colors_append (costs more : List CostSymbol) :
    colors (costs ++ more) = colors costs ++ colors more :=
  List.filterMap_append

theorem points_append (costs more : List CostSymbol) (x : Amount) :
    points (costs ++ more) x = points costs x + points more x := by
  induction costs with
  | nil => exact (Nat.zero_add _).symm
  | cons symbol rest ih =>
    cases symbol with
    | generic q => exact (congrArg ((q.value x).times + ·) ih).trans (Nat.add_assoc _ _ _).symm
    | _ => exact ih

theorem generic_notMem_colors (costs : List CostSymbol) : EssenceToken.generic ∉ colors costs := by
  intro mem
  obtain ⟨symbol, -, same⟩ := List.mem_filterMap.1 mem
  cases symbol <;> cases same

theorem payColors_spec (pool : EssencePool) (costs : List CostSymbol) :
    ((pool.payColors costs).1 ↔ (colors costs).Subperm pool) ∧
      ((pool.payColors costs).1 → (pool.payColors costs).2 = pool.diff (colors costs)) := by
  induction costs generalizing pool with
  | nil => simp [payColors, colors]
  | cons symbol rest ih =>
    cases symbol with
    | essence e =>
      change ((if _ then _ else _ : Bool × EssencePool).1 ↔
        (.colored e :: colors rest).Subperm pool) ∧
        ((if _ then _ else _ : Bool × EssencePool).1 →
          (if _ then _ else _ : Bool × EssencePool).2 = pool.diff (.colored e :: colors rest))
      split
      · next held =>
        rw [List.diff_cons]
        refine ⟨(ih _).1.trans ?_, (ih _).2⟩
        exact ((List.subperm_cons _).symm.trans
          ((List.perm_cons_erase held).subperm_left).symm)
      · next missing => exact ⟨iff_of_false Bool.false_ne_true fun part =>
          missing (part.subset (.head _)), nofun⟩
    | _ => exact ih pool

theorem payPoints_succ (pool : EssencePool) :
    (pool = [] ∧ ∀ n, pool.payPoints (n + 1) = (false, [])) ∨
      ∃ rest, rest.length + 1 = pool.length ∧ (∀ n, pool.payPoints (n + 1) = payPoints rest n) ∧
        (.generic ∈ pool → rest = pool.erase .generic) := by
  cases pool with
  | nil => exact .inl ⟨rfl, fun n => by simp [payPoints]⟩
  | cons first rest =>
    refine .inr ?_
    by_cases held : .generic ∈ first :: rest
    · refine ⟨_, ?_, fun n => by rw [payPoints, if_pos held], fun _ => rfl⟩
      rw [List.length_erase_of_mem held]
      rfl
    · exact ⟨rest, rfl, fun n => by rw [payPoints, if_neg held], fun h => absurd h held⟩

theorem payPoints_fst_iff (pool : EssencePool) (n : Nat) :
    (pool.payPoints n).1 ↔ n ≤ pool.length := by
  induction n generalizing pool with
  | zero => simp [payPoints]
  | succ n ih =>
    obtain ⟨rfl, none⟩ | ⟨rest, size, next, -⟩ := pool.payPoints_succ
    · simp [none]
    · rw [next, ih rest]
      omega

theorem length_payPoints {pool : EssencePool} {n : Nat} (paid : (pool.payPoints n).1) :
    (pool.payPoints n).2.length + n = pool.length := by
  induction n generalizing pool with
  | zero => rw [payPoints, Nat.add_zero]
  | succ n ih =>
    obtain ⟨rfl, none⟩ | ⟨rest, size, next, -⟩ := pool.payPoints_succ
    · rw [none] at paid
      exact absurd paid Bool.false_ne_true
    · rw [next] at paid ⊢
      have := ih paid
      omega

theorem diff_replicate_of_notMem {pool : EssencePool} {token : EssenceToken} (others : token ∉ pool)
    (n : Nat) : pool.diff (List.replicate n token) = pool := by
  induction n with
  | zero => rfl
  | succ n ih => rw [List.replicate_succ, List.diff_cons, List.erase_of_not_mem others, ih]

theorem payPoints_eq {pool : EssencePool} {n : Nat} (enough : n ≤ pool.length) :
    pool.payPoints n =
      (true, (pool.diff (List.replicate n .generic)).drop (n - pool.count .generic)) := by
  induction n generalizing pool with
  | zero => simp [payPoints]
  | succ n ih =>
    by_cases held : .generic ∈ pool
    · obtain ⟨rfl, -⟩ | ⟨rest, size, next, erased⟩ := pool.payPoints_succ
      · exact absurd held List.not_mem_nil
      · have some := List.count_pos_iff.2 held
        rw [next, ih (by omega), erased held, List.count_erase_self, List.replicate_succ,
          List.diff_cons]
        congr 2
        omega
    · cases pool with
      | nil => exact absurd enough (Nat.not_succ_le_zero n)
      | cons first rest =>
        have others : .generic ∉ rest := fun mem => held (.tail _ mem)
        rw [payPoints, if_neg held, ih (Nat.le_of_succ_le_succ enough),
          List.count_eq_zero_of_not_mem held, List.count_eq_zero_of_not_mem others,
          diff_replicate_of_notMem held, diff_replicate_of_notMem others]
        rfl

theorem payPoints_of_generic {pool : EssencePool} {n : Nat} (enough : n ≤ pool.count .generic) :
    pool.payPoints n = (true, pool.diff (List.replicate n .generic)) := by
  rw [payPoints_eq (Nat.le_trans enough List.count_le_length), Nat.sub_eq_zero_of_le enough,
    List.drop_zero]

theorem payPoints_add (pool : EssencePool) (m n : Nat) :
    pool.payPoints (m + n) = match pool.payPoints m with
      | (true, rest) => payPoints rest n
      | failed => failed := by
  induction m generalizing pool with
  | zero => rw [Nat.zero_add, payPoints]
  | succ m ih =>
    rw [Nat.succ_add]
    obtain ⟨rfl, none⟩ | ⟨rest, -, next, -⟩ := pool.payPoints_succ
    · rw [none, none]
    · rw [next, next]
      exact ih rest

theorem payGeneric_eq (pool : EssencePool) (costs : List CostSymbol) (x : Amount) :
    pool.payGeneric x costs = pool.payPoints (points costs x) := by
  induction costs generalizing pool with
  | nil => rw [payGeneric, points, payPoints]
  | cons symbol rest ih =>
    cases symbol with
    | generic q =>
      rw [points, payPoints_add, payGeneric]
      cases pool.payPoints (q.value x).times with
      | mk paid left =>
        cases paid with
        | true => exact ih left
        | false => rfl
    | _ => exact ih pool

theorem pay_of_colors {pool : EssencePool} {costs : List CostSymbol}
    (held : (colors costs).Subperm pool) (x : Amount) :
    pool.pay costs x = payPoints (pool.diff (colors costs)) (points costs x) := by
  have colored := payColors_spec pool costs
  have paid := colored.1.2 held
  rw [← colored.2 paid, ← payGeneric_eq]
  unfold pay
  split
  · next left ran => rw [ran]
  · next unpaid => exact (unpaid (pool.payColors costs).2 (Prod.ext paid rfl)).elim

theorem pay_fst_of_missing {pool : EssencePool} {costs : List CostSymbol}
    (missing : ¬ (colors costs).Subperm pool) (x : Amount) : (pool.pay costs x).1 = false := by
  have unpaid := Bool.eq_false_iff.2 (mt (payColors_spec pool costs).1.1 missing)
  rw [pay]
  split
  · next paid => rw [paid] at unpaid; exact nomatch unpaid
  · exact unpaid

theorem length_diff_colors {pool : EssencePool} {costs : List CostSymbol}
    (held : (colors costs).Subperm pool) :
    (pool.diff (colors costs)).length + (colors costs).length = pool.length := by
  have perm := List.subperm_append_diff_self_of_count_le (List.subperm_ext_iff.1 held)
  rw [← perm.length_eq, List.length_append, Nat.add_comm]

theorem canAfford_iff (pool : EssencePool) (costs : List CostSymbol) (x : Amount) :
    pool.canAfford costs x ↔
      (colors costs).Subperm pool ∧ (colors costs).length + points costs x ≤ pool.length := by
  by_cases held : (colors costs).Subperm pool
  · have size := length_diff_colors held
    rw [canAfford, pay_of_colors held, payPoints_fst_iff, and_iff_right held]
    omega
  · rw [canAfford, pay_fst_of_missing held]
    exact iff_of_false Bool.false_ne_true fun can => held can.1

theorem length_pay {pool : EssencePool} {costs : List CostSymbol} {x : Amount}
    (can : pool.canAfford costs x) :
    (pool.pay costs x).2.length + ((colors costs).length + points costs x) = pool.length := by
  have held := ((canAfford_iff _ _ _).1 can).1
  rw [canAfford, pay_of_colors held] at can
  have left := length_payPoints can
  have size := length_diff_colors held
  rw [pay_of_colors held]
  omega

theorem count_colors (costs : List CostSymbol) (e : Essence) :
    (colors costs).count (.colored e) = costs.count (.essence e) := by
  induction costs with
  | nil => rfl
  | cons symbol rest ih =>
    cases symbol with
    | essence d => by_cases same : d = e <;> simp [colors, ← ih, same]
    | _ => simpa [colors] using ih

theorem colors_subperm_iff (pool : EssencePool) (costs : List CostSymbol) :
    (colors costs).Subperm pool ↔ ∀ e, costs.count (.essence e) ≤ pool.count (.colored e) := by
  rw [List.subperm_ext_iff]
  constructor
  · intro held e
    rw [← count_colors]
    by_cases mem : .colored e ∈ colors costs
    · exact held _ mem
    · rw [List.count_eq_zero_of_not_mem mem]
      exact Nat.zero_le _
  · intro held token mem
    cases token with
    | colored e => exact count_colors costs e ▸ held e
    | generic => exact absurd mem (generic_notMem_colors costs)

theorem points_perm {costs other : List CostSymbol} (perm : costs.Perm other) (x : Amount) :
    points costs x = points other x := by
  induction perm with
  | nil => rfl
  | cons symbol _ ih => cases symbol <;> simp only [points, ih]
  | swap first second rest =>
    cases first <;> cases second <;> simp only [points]
    omega
  | trans _ _ before after => exact before.trans after

theorem canAfford_perm {costs other : List CostSymbol} (perm : costs.Perm other)
    (pool : EssencePool) (x : Amount) : pool.canAfford costs x = pool.canAfford other x := by
  have colored : (colors costs).Perm (colors other) := perm.filterMap _
  rw [Bool.eq_iff_iff, canAfford_iff, canAfford_iff, colored.subperm_right, colored.length_eq,
    points_perm perm]

theorem pay_perm {costs other : List CostSymbol} (perm : costs.Perm other) {pool : EssencePool}
    (held : (colors costs).Subperm pool) (x : Amount) : pool.pay other x = pool.pay costs x := by
  have colored : (colors costs).Perm (colors other) := perm.filterMap _
  rw [pay_of_colors held, pay_of_colors (colored.subperm_right.1 held), colored.diff_left,
    points_perm perm]

theorem pay_eq {pool : EssencePool} {costs : List CostSymbol} {x : Amount}
    (can : pool.canAfford costs x) :
    pool.pay costs x = (true, ((pool.diff (colors costs)).diff
      (List.replicate (points costs x) .generic)).drop (points costs x - pool.count .generic)) := by
  obtain ⟨held, size⟩ := (canAfford_iff _ _ _).1 can
  have left := length_diff_colors held
  rw [pay_of_colors held, payPoints_eq (by omega), List.count_diff,
    List.count_eq_zero_of_not_mem (generic_notMem_colors costs), Nat.sub_zero]

theorem payPoints_succ_of_generic {pool : EssencePool} {n : Nat} (enough : n ≤ pool.length)
    (left : .generic ∈ (pool.payPoints n).2) :
    pool.payPoints (n + 1) = (true, (pool.payPoints n).2.erase .generic) := by
  have paid := (payPoints_fst_iff pool n).2 enough
  rw [payPoints_add]
  cases ran : pool.payPoints n with
  | mk done rest =>
    rw [ran] at paid left
    obtain rfl : done = true := paid
    obtain ⟨rfl, -⟩ | ⟨now, -, next, erased⟩ := payPoints_succ rest
    · exact nomatch left
    · exact (next 0).trans (by rw [payPoints, erased left])

theorem count_generic_payPoints {pool : EssencePool} {n : Nat} (enough : n ≤ pool.length) :
    (pool.payPoints n).2.count .generic = pool.count .generic - n := by
  have left : (pool.diff (List.replicate n .generic)).count .generic = pool.count .generic - n := by
    rw [List.count_diff, List.count_replicate_self]
  rw [payPoints_eq enough]
  rcases Nat.le_total n (pool.count .generic) with few | many
  · rw [Nat.sub_eq_zero_of_le few, List.drop_zero, left]
  · have less := (List.drop_sublist (n - pool.count .generic)
      (pool.diff (List.replicate n .generic))).count_le EssenceToken.generic
    dsimp only
    omega

/-- A cost can be paid just when the pool holds each of its colors often enough and has a token for
each of its colors and points. What is paid then is as many tokens, and the rest keep their order:
the colors first, and one token for each point, which is a generic one as long as there is one. The
order of the symbols decides nothing about that; it matters only to what is left by a payment that
misses a color, since such a payment stops at the first color that is missing. -/
theorem pay_complete (pool : EssencePool) (costs : List CostSymbol) (x : Amount) :
    let colored : EssencePool := pool.diff (colors costs)
    let held := ∀ e, costs.count (.essence e) ≤ pool.count (.colored e)
    let taken := (colors costs).length + points costs x
    ((pool.pay costs x).1 ↔ held ∧ taken ≤ pool.length) ∧
      ((pool.pay costs x).1 →
        (pool.pay costs x).2.length + taken = pool.length ∧
        (pool.pay costs x).2.Sublist pool ∧
        pool.pay costs x = colored.payPoints (points costs x) ∧
        (∀ n < points costs x, .generic ∈ (colored.payPoints n).2 →
          colored.payPoints (n + 1) = (true, (colored.payPoints n).2.erase .generic)) ∧
        (pool.pay costs x).2.count .generic = pool.count .generic - points costs x) ∧
      ∀ other, costs.Perm other → (pool.pay other x).1 = (pool.pay costs x).1 ∧
        (held → pool.pay other x = pool.pay costs x) := by
  intro colored held taken
  have symbols : (colors costs).Subperm pool ↔ held := colors_subperm_iff pool costs
  refine ⟨(canAfford_iff pool costs x).trans (and_congr_left' symbols), fun can => ?_,
    fun other perm => ⟨(canAfford_perm perm pool x).symm,
      fun all => pay_perm perm (symbols.2 all) x⟩⟩
  obtain ⟨all, size⟩ := (canAfford_iff pool costs x).1 can
  have left := length_diff_colors all
  have enough : points costs x ≤ (pool.diff (colors costs)).length := by omega
  refine ⟨length_pay can, ?_, pay_of_colors all x, fun n before mem => ?_, ?_⟩
  · rw [pay_eq can]
    exact (List.drop_sublist _ _).trans ((List.diff_sublist _ _).trans (List.diff_sublist _ _))
  · exact payPoints_succ_of_generic (Nat.le_trans (Nat.le_of_lt before) enough) mem
  · rw [pay_of_colors all, count_generic_payPoints enough, List.count_diff,
      List.count_eq_zero_of_not_mem (generic_notMem_colors costs), Nat.sub_zero]

theorem pay_complete_missing :
    [CostSymbol.essence .cup, .essence .sword].Perm [.essence .sword, .essence .cup] ∧
      pay [.colored .cup] [.essence .cup, .essence .sword] 0 = (false, []) ∧
      pay [.colored .cup] [.essence .sword, .essence .cup] 0 = (false, [.colored .cup]) :=
  ⟨.swap .., rfl, rfl⟩

theorem pay_of_generic {pool : EssencePool} {costs : List CostSymbol} {x : Amount}
    (held : (colors costs).Subperm pool) (enough : points costs x ≤ pool.count .generic) :
    pool.pay costs x =
      (true, (pool.diff (colors costs)).diff (List.replicate (points costs x) .generic)) := by
  rw [pay_of_colors held]
  refine payPoints_of_generic ?_
  rw [List.count_diff, List.count_eq_zero_of_not_mem (generic_notMem_colors costs), Nat.sub_zero]
  exact enough

theorem length_le_spend (pool : EssencePool) (costs : List CostSymbol) (x : Amount) :
    pool.length ≤ (pool.spend costs x).length + ((colors costs).length + points costs x) := by
  unfold spend
  split
  · next can => exact Nat.le_of_eq (length_pay can).symm
  · exact Nat.le_add_right _ _

theorem length_le_foldl_spend (pool : EssencePool) (charges : List (List CostSymbol)) (x : Amount) :
    pool.length ≤ (charges.foldl (fun rest costs => spend rest costs x) pool).length +
      ((colors charges.flatten).length + points charges.flatten x) := by
  induction charges generalizing pool with
  | nil => exact Nat.le_add_right _ _
  | cons costs rest ih =>
    have first := pool.length_le_spend costs x
    have later := ih (pool.spend costs x)
    rw [List.flatten_cons, colors_append, points_append, List.length_append]
    exact Nat.le_trans first (by rw [List.foldl_cons]; omega)

theorem canAfford_in_turn {pool : EssencePool} {before after : List (List CostSymbol)}
    {costs : List CostSymbol} {x : Amount}
    (can : pool.canAfford (before ++ costs :: after).flatten x) :
    (before.foldl (fun rest costs => spend rest costs x) pool).canAfford costs x ↔
      (colors costs).Subperm (before.foldl (fun rest costs => spend rest costs x) pool) := by
  have size := ((canAfford_iff _ _ _).1 can).2
  rw [List.flatten_append, List.flatten_cons, colors_append, colors_append, points_append,
    points_append, List.length_append, List.length_append] at size
  have left := length_le_foldl_spend pool before x
  exact (canAfford_iff _ _ _).trans (and_iff_left (by omega))

theorem colors_subperm_in_turn {pool : EssencePool} {before : List (List CostSymbol)}
    {costs : List CostSymbol} {x : Amount}
    (held : (colors (before.flatten ++ costs)).Subperm pool)
    (enough : points before.flatten x ≤ pool.count .generic) :
    (colors costs).Subperm (before.foldl (fun rest costs => spend rest costs x) pool) := by
  induction before generalizing pool with
  | nil => exact held
  | cons first rest ih =>
    rw [List.flatten_cons, List.append_assoc, colors_append] at held
    rw [List.flatten_cons, points_append] at enough
    have own : (colors first).Subperm pool := (List.sublist_append_left _ _).subperm.trans held
    have paid := pay_of_generic own (Nat.le_trans (Nat.le_add_right _ _) enough)
    have left : pool.spend first x =
        (pool.diff (colors first)).diff (List.replicate (points first x) .generic) := by
      rw [spend, canAfford, paid, if_pos rfl]
    rw [List.foldl_cons]
    refine ih (List.subperm_ext_iff.2 fun token mem => ?_) ?_
    · have apart : token ≠ .generic := fun same => generic_notMem_colors _ (same ▸ mem)
      have total := held.count_le token
      rw [List.count_append] at total
      rw [left, List.count_diff, List.count_diff, List.count_replicate,
        if_neg (by simpa using apart.symm)]
      omega
    · rw [left, List.count_diff, List.count_diff, List.count_replicate_self,
        List.count_eq_zero_of_not_mem (generic_notMem_colors first)]
      omega

end EssencePool

/-- The essence that an effect spends, if it is a spend. -/
def PlannedEffect.charge? (e : PlannedEffect) : Option (List CostSymbol) :=
  match e.effect with
  | .player (.payEssence costs) => some costs
  | _ => none

theorem PlannedEffect.effect_of_charge? {e : PlannedEffect} {costs : List CostSymbol}
    (charge : e.charge? = some costs) : e.effect = .player (.payEssence costs) := by
  unfold charge? at charge
  split at charge
  · next same => rw [same, Option.some.inj charge]
  · exact nomatch charge

def AbilityUse.paying (id : UseId) (p : PlayerId) (c : CardId) (a : Activated) (x : Amount) :
    AbilityUse :=
  { AbilityUse.fresh id .activated c p with x := x }.prepareClauses a.effectCosts

def AbilityUse.spends (u : AbilityUse) : List PlannedEffect :=
  u.effects.filter (·.charge?.isSome)

theorem AbilityUse.unpicked_of_paying {id : UseId} {p : PlayerId} {c : CardId} {a : Activated}
    {x : Amount} {e : PlannedEffect} (mem : e ∈ (paying id p c a x).effects) :
    e.subjectsPicked = false := by
  rcases mem_prepareClauses mem with before | ⟨clause, -, group, new⟩
  · exact nomatch before
  · exact (Effect.ofClause_unpicked new).1.1

theorem AbilityUse.filterMap_charge?_spends (u : AbilityUse) :
    u.spends.filterMap (·.charge?) = u.effects.filterMap (·.charge?) := by
  rw [spends, List.filterMap_filter]
  refine congrArg (List.filterMap · u.effects) (funext fun e => ?_)
  cases e.charge? <;> rfl

theorem AbilityUse.effects_prepareClauses_congr {u v : AbilityUse} (effects : v.effects = u.effects)
    (group : v.nextGroup = u.nextGroup) (clauses : List Effect) :
    (v.prepareClauses clauses).effects = (u.prepareClauses clauses).effects := by
  induction clauses generalizing u v with
  | nil => exact effects
  | cons clause rest ih =>
    refine ih (u := u.prepareClause clause) (v := v.prepareClause clause) ?_ ?_
    · rw [prepareClause, prepareClause, effects, group]
    · rw [prepareClause, prepareClause, group]

section Paying

variable (id : UseId) (p : PlayerId) (c : CardId) (a : Activated) (x : Amount)

theorem AbilityUse.becomes_paying :
    AbilityUse.Becomes { AbilityUse.fresh id .activated c p with x := x } (paying id p c a x) :=
  prepareClauses_becomes _ _

theorem AbilityUse.source_paying : (paying id p c a x).source = c :=
  (becomes_paying id p c a x).source_eq

theorem AbilityUse.controller_paying : (paying id p c a x).controller = p :=
  (becomes_paying id p c a x).controller_eq

theorem AbilityUse.x_paying : (paying id p c a x).x = x :=
  (becomes_paying id p c a x).x_eq

theorem AbilityUse.effects_paying (other : UseId) :
    (paying other p c a x).effects = (paying id p c a x).effects :=
  effects_prepareClauses_congr (u := { AbilityUse.fresh id .activated c p with x := x })
    (v := { AbilityUse.fresh other .activated c p with x := x }) rfl rfl _

end Paying

theorem AbilityUse.filterMap_charge?_of_spends {u : AbilityUse} {before after : List PlannedEffect}
    {e : PlannedEffect} {costs : List CostSymbol} (order : u.spends = before ++ e :: after)
    (charge : e.charge? = some costs) : u.effects.filterMap (·.charge?) =
      before.filterMap (·.charge?) ++ costs :: after.filterMap (·.charge?) := by
  rw [← filterMap_charge?_spends, order, List.filterMap_append, List.filterMap_cons_some charge]

namespace Game

theorem essence_billEffect {g : Game} {u : AbilityUse} {bill next : Bill} {e : PlannedEffect}
    (billed : g.billEffect u bill e = some next) :
    next.essence = bill.essence ++ e.charge?.getD [] := by
  have same : ∀ {kept : Bill}, some kept = some next → next.essence = kept.essence :=
    fun done => congrArg Bill.essence (Option.some.inj done).symm
  obtain ⟨effect, group, optional, subject, pending, zone, subjects, subjectsPicked, objects,
    picked⟩ := e
  cases effect with
  | card effect => exact (same billed).trans (List.append_nil _).symm
  | player effect =>
    cases effect with
    | payEssence costs => exact same billed
    | payLife amount => exact (same billed).trans (List.append_nil _).symm
    | sacrifice objects =>
      simp only [billEffect, Option.ite_none_right_eq_some] at billed
      exact (same billed.2).trans (List.append_nil _).symm
    | discard count filter =>
      simp only [billEffect, Option.ite_none_right_eq_some] at billed
      exact (same billed.2).trans (List.append_nil _).symm
    | _ => exact (same billed).trans (List.append_nil _).symm

theorem essence_bill {g : Game} {u : AbilityUse} {effects : List PlannedEffect} {bill total : Bill}
    (billed : effects.foldlM (g.billEffect u) bill = some total) :
    total.essence = bill.essence ++ (effects.filterMap (·.charge?)).flatten := by
  induction effects generalizing bill with
  | nil =>
    rw [← Option.some.inj billed]
    simp
  | cons e rest ih =>
    rw [List.foldlM_cons] at billed
    obtain ⟨next, first, later⟩ := Option.bind_eq_some_iff.1 billed
    rw [ih later, essence_billEffect first, List.filterMap_cons]
    cases e.charge? with
    | none => simp
    | some costs => simp

theorem exists_bill_of_canPayEffects {g : Game} {p : PlayerId} {c : CardId} {a : Activated}
    {x : Amount} (can : g.canPayEffects p c a x) (id : UseId) :
    ∃ bill, (AbilityUse.paying id p c a x).effects.foldlM (g.billEffect (.paying ⟨0⟩ p c a x))
        ⟨a.resourceCosts, 0⟩ = some bill ∧
      p.seat < g.players.count ∧ (g.player p).essence.canAfford bill.essence x := by
  rw [← AbilityUse.effects_paying id p c a x ⟨0⟩]
  unfold canPayEffects at can
  split at can
  · exact absurd can Bool.false_ne_true
  · next player seat =>
    have held : g.player p = player := by rw [Game.player, seat]; rfl
    dsimp only at can
    split at can
    · exact absurd can Bool.false_ne_true
    · next bill billed =>
      exact ⟨bill, billed, (List.getElem?_eq_some_iff.1 seat).1,
        held ▸ (Bool.and_eq_true_iff.1 can).2⟩

/-- Who could pay the actions that an ability costs could pay at once for its symbols and its
spends. -/
theorem canAfford_of_canPayEffects {g : Game} {p : PlayerId} {c : CardId} {a : Activated}
    {x : Amount} (can : g.canPayEffects p c a x) (id : UseId) :
    p.seat < g.players.count ∧ (g.player p).essence.canAfford (a.resourceCosts ++
      ((AbilityUse.paying id p c a x).effects.filterMap (·.charge?)).flatten) x := by
  obtain ⟨bill, billed, seated, afford⟩ := exists_bill_of_canPayEffects can id
  rw [essence_bill billed] at afford
  exact ⟨seated, afford⟩

end Game

namespace Act

/-- A player holds some essence, and a card is there. -/
structure Purse (p : PlayerId) (c : CardId) (pool : EssencePool) (g : Game) : Prop where
  seated : p.seat < g.players.count
  known : (g.card? c).isSome
  essence : (g.player p).essence = pool

theorem Purse.emit {p : PlayerId} {c : CardId} {pool : EssencePool} (kind : EventKind)
    (subject : ObjectRef) : Step.Keeps (Purse p c pool) (Step.emit kind subject) := by
  intro g purse
  have stays := Step.emit_stays kind subject g c
  refine ⟨Nat.lt_of_lt_of_eq purse.seated stays.seats.symm, ?_, ?_⟩
  · rw [Game.card?, Step.emit_cards]
    exact purse.known
  · rcases Step.emit_cases kind subject g with dropped | frame
    · rw [dropped]
      exact purse.essence
    · rw [frame.player]
      exact purse.essence

theorem Purse.ends_paySymbol {p : PlayerId} {c : CardId} {pool : EssencePool}
    (symbol : CostSymbol) :
    Ends (Purse p c pool) (paySymbol c symbol) (fun _ => Purse p c pool) fun _ _ => False := by
  have marked : ∀ f, Ends (Purse p c pool) (changeCard c f) (fun _ => Purse p c pool) fun _ _ =>
    False := by
    intro f
    refine Ends.bind (Q := fun _ => Purse p c pool) ?_ fun _ => ends_modifyThe fun g purse => ?_
    · exact ends_card (fun _ _ purse _ => purse) fun g purse missing => by
        have := purse.known
        rw [missing] at this
        exact nomatch this
    · refine ⟨purse.seated, ?_, purse.essence⟩
      rw [Game.card?_modifyCard_self, Option.isSome_map]
      exact purse.known
  cases symbol with
  | activate => exact (marked _).bind fun _ => ends_step (Purse.emit _ _)
  | deactivate => exact (marked _).bind fun _ => ends_step (Purse.emit _ _)
  | _ => exact ends_pure fun _ purse => purse

theorem ends_pay_purse {g : Game} {c : CardId} {i : CardInstance} {costs : List CostSymbol}
    {x : Amount} (found : g.card? c = some i) (seated : i.controller.seat < g.players.count)
    (can : (g.player i.controller).essence.canAfford costs x) :
    Ends (fun h => h = g) (pay c costs x)
      (fun _ => Purse i.controller c ((g.player i.controller).essence.pay costs x).2)
      fun _ _ => False := by
  refine ends_pay_of_canAfford found can ⟨?_, ?_, ?_⟩ fun symbol => Purse.ends_paySymbol symbol
  · exact Nat.lt_of_lt_of_eq seated (Seats.count_modify _ _ _).symm
  · exact Option.isSome_iff_exists.2 ⟨i, found⟩
  · rw [Game.player_modifyPlayer_self seated]

theorem run_resolveEffect_plain {r : Resolution} {e : PlannedEffect} {effect : PlayerEffect}
    (acts : e.effect = .player effect) (unpicked : e.subjectsPicked = false)
    (plain : e.subject = none ∧ e.optional = false) (g : Game) :
    StateT.run (ExceptT.run (resolveEffect r e)) g = StateT.run (ExceptT.run do
      let v ← applyToPlayer r.use effect r.use.controller (g.objectsFor r.use e)
      return ⟨v, r.consents⟩) g := by
  obtain ⟨effect, group, optional, subject, pending, zone, subjects, subjectsPicked, objects,
    picked⟩ := e
  obtain ⟨rfl, rfl⟩ := plain
  subst acts unpicked
  rw [resolveEffect, run_bind_of_ok (run_getThe g)]
  refine congrArg (fun act : Act Resolution => StateT.run (ExceptT.run act) g) ?_
  exact (List.foldlM_cons ..).trans (bind_pure _)

theorem run_resolveEffect_spend {r : Resolution} {e : PlannedEffect} {costs : List CostSymbol}
    (spends : e.effect = .player (.payEssence costs)) (unpicked : e.subjectsPicked = false)
    (plain : e.subject = none ∧ e.optional = false) (g : Game) :
    StateT.run (ExceptT.run (resolveEffect r e)) g =
      (.ok r, g.modifyPlayer r.use.controller fun s =>
      { s with essence := s.essence.spend costs r.use.x }) := by
  rw [run_resolveEffect_plain spends unpicked plain]
  refine congrArg (fun paid => ((.ok r : Except EngineError Resolution),
    g.modifyPlayer r.use.controller paid)) (funext fun s => ?_)
  unfold EssencePool.spend EssencePool.canAfford
  cases s.essence.pay costs r.use.x with
  | mk paid pool => cases paid <;> rfl

theorem run_spends {u : AbilityUse} {spends : List PlannedEffect}
    (listed : ∀ e ∈ spends, e.charge?.isSome ∧ e.subjectsPicked = false ∧ e.subject = none ∧
      e.optional = false) {c : CardId} {pool : EssencePool}
        {h : Game} (purse : Purse u.controller c pool h) :
    ∃ k, StateT.run (ExceptT.run (spends.foldlM resolveEffect ⟨u, []⟩)) h = (.ok ⟨u, []⟩, k) ∧
      Purse u.controller c
        ((spends.filterMap (·.charge?)).foldl (fun rest costs => rest.spend costs u.x) pool) k := by
  induction spends generalizing pool h with
  | nil => exact ⟨h, rfl, purse⟩
  | cons e rest ih =>
    obtain ⟨charged, unpicked, plain⟩ := listed e (.head _)
    obtain ⟨costs, charge⟩ := Option.isSome_iff_exists.1 charged
    have spends := PlannedEffect.effect_of_charge? charge
    have step := run_resolveEffect_spend (r := ⟨u, []⟩) spends unpicked plain h
    have left : Purse u.controller c (pool.spend costs u.x) (h.modifyPlayer u.controller fun s =>
        { s with essence := s.essence.spend costs u.x }) := by
      refine ⟨Nat.lt_of_lt_of_eq purse.seated (Seats.count_modify _ _ _).symm, purse.known, ?_⟩
      rw [Game.player_modifyPlayer_self purse.seated, purse.essence]
    obtain ⟨k, ran, purse⟩ := ih (fun e mem => listed e (.tail _ mem)) left
    refine ⟨k, ?_, ?_⟩
    · rw [List.foldlM_cons, run_bind_of_ok step]
      exact ran
    · rw [List.filterMap_cons_some charge]
      exact purse

end Act

/-- An ability that can be paid for has its symbols paid in full. Its spends come after them, one
after the other, and each is paid in full just when the colors that it needs are still in the pool;
that is so as long as the payments before it have no more generic points than there were generic
tokens. -/
theorem Game.spends_in_turn {g : Game} {p : PlayerId} {c : CardId} {i : CardInstance}
    {a : Activated} {x : Amount} (found : g.card? c = some i) (controlled : i.controller = p)
    (payable : g.canPayAbility p c a x) (id : UseId)
    (plain : ∀ e ∈ (AbilityUse.paying id p c a x).spends, e.subject = none ∧ e.optional = false) :
    let u := AbilityUse.paying id p c a x
    ∃ h, StateT.run (ExceptT.run (Act.pay c a.resourceCosts x)) g = (.ok (), h) ∧
      (g.player p).essence.canAfford a.resourceCosts x ∧
      (h.player p).essence = ((g.player p).essence.pay a.resourceCosts x).2 ∧
      ∀ before e after costs, u.spends = before ++ e :: after → e.charge? = some costs →
        ∃ k : Game, StateT.run (ExceptT.run
          (before.foldlM Act.resolveEffect ⟨u, []⟩ : Act Resolution)) h =
            (.ok ⟨u, []⟩, k) ∧
          StateT.run (ExceptT.run (Act.resolveEffect ⟨u, []⟩ e)) k = (.ok ⟨u, []⟩,
            k.modifyPlayer p fun s => { s with essence := s.essence.spend costs x }) ∧
          ((k.player p).essence.canAfford costs x ↔
            (EssencePool.colors costs).Subperm (k.player p).essence) ∧
          (EssencePool.points (a.resourceCosts ++ (before.filterMap (·.charge?)).flatten) x ≤
            (g.player p).essence.count .generic → (k.player p).essence.canAfford costs x) := by
  subst controlled
  obtain ⟨symbols, effects⟩ := Bool.and_eq_true_iff.1 payable
  have afford := canAfford_of_canPay found symbols
  obtain ⟨seated, total⟩ := canAfford_of_canPayEffects effects id
  obtain ⟨⟨⟩, h, paid, purse⟩ := (Act.ends_pay_purse found seated afford).succeeds rfl
  refine ⟨h, paid, afford, purse.essence, fun before e after costs order charge => ?_⟩
  have spends : ∀ d ∈ before, d.charge?.isSome ∧ d.subjectsPicked = false ∧ d.subject = none ∧
      d.optional = false := by
    intro d mem
    have listed : d ∈ (AbilityUse.paying id i.controller c a x).spends :=
      order ▸ List.mem_append_left _ mem
    exact ⟨(List.mem_filter.1 listed).2, AbilityUse.unpicked_of_paying (List.mem_filter.1 listed).1,
      plain d listed⟩
  have own : e ∈ (AbilityUse.paying id i.controller c a x).spends :=
    order ▸ List.mem_append_right _ (.head _)
  have controller := AbilityUse.controller_paying id i.controller c a x
  have chosen := AbilityUse.x_paying id i.controller c a x
  rw [← controller] at purse
  obtain ⟨k, ran, left⟩ := Act.run_spends spends purse
  rw [chosen, controller] at left
  have pool : (k.player i.controller).essence =
      (a.resourceCosts :: before.filterMap (·.charge?)).foldl (fun rest costs => rest.spend costs x)
        (g.player i.controller).essence := by
    rw [left.essence, List.foldl_cons, EssencePool.spend, if_pos afford]
  rw [AbilityUse.filterMap_charge?_of_spends order charge, ← List.flatten_cons,
    ← List.cons_append] at total
  have turn := EssencePool.canAfford_in_turn total
  rw [← pool] at turn
  refine ⟨k, ran, ?_, turn, fun enough => turn.2 ?_⟩
  · have step := Act.run_resolveEffect_spend (r := ⟨AbilityUse.paying id i.controller c a x, []⟩)
      (PlannedEffect.effect_of_charge? charge)
        (AbilityUse.unpicked_of_paying (List.mem_filter.1 own).1) (plain e own) k
    rw [chosen, controller] at step
    exact step
  · rw [pool]
    refine EssencePool.colors_subperm_in_turn ?_ enough
    have held := ((EssencePool.canAfford_iff _ _ _).1 total).1
    rw [List.flatten_append, List.flatten_cons (l := costs), ← List.append_assoc,
      EssencePool.colors_append] at held
    exact (List.sublist_append_left _ _).subperm.trans held

def Card.well : Card :=
  ((blank "Well").withKind ⟨.item, false⟩).withAbility
    (.activated ⟨[.symbol .activate],
      ⟨[.player none false [.add [.essence .cup, .essence .wand]]]⟩⟩)

/-- An ability that costs one essence of any kind and then asks for cup. -/
def Activated.font : Activated :=
  ⟨[.symbol (.generic (.number 1)), .effect (.player none false [.payEssence [.essence .cup]])],
    ⟨[.player none false [.gainLife (.number 1)]]⟩⟩

/-- With cup and wand the ability of a font can be paid for, but its first point takes the cup, and
nothing is spent for the second one. -/
theorem spends_in_turn_font :
    ∃ start, Game.create {} [⟨[.well, ((Card.blank "Font").withKind ⟨.item, false⟩).withAbility
        (.activated .font)], .pass⟩, ⟨[], .pass⟩] = .ok start ∧
      let g := Operation.performAll start [.draw ⟨0⟩ 2, .enterPhase .play, .cast ⟨0⟩ ⟨0⟩ none,
        .resolveTop, .cast ⟨0⟩ ⟨1⟩ none, .resolveTop, .activate ⟨0⟩ ⟨0⟩ 0]
      let u := AbilityUse.paying ⟨0⟩ ⟨0⟩ ⟨1⟩ .font 0
      0 ∈ g.usableAbilities ⟨0⟩ ⟨1⟩ ∧ u.spends.map (·.charge?) = [some [.essence .cup]] ∧
        ∃ h, StateT.run (ExceptT.run (Act.pay ⟨1⟩ Activated.font.resourceCosts 0)) g = (.ok (), h) ∧
          (h.player ⟨0⟩).essence = [.colored .wand] ∧
          ¬ (h.player ⟨0⟩).essence.canAfford [.essence .cup] 0 := by
  refine ⟨_, rfl, by decide +kernel, by decide +kernel, ?_⟩
  have spent : ∀ (g : Game) (i : CardInstance), g.card? ⟨1⟩ = some i → i.controller = ⟨0⟩ →
      g.canPayAbility ⟨0⟩ ⟨1⟩ .font 0 →
      ((g.player ⟨0⟩).essence.pay Activated.font.resourceCosts 0).2 = [.colored .wand] →
      ∃ h, StateT.run (ExceptT.run (Act.pay ⟨1⟩ Activated.font.resourceCosts 0)) g = (.ok (), h) ∧
        (h.player ⟨0⟩).essence = [.colored .wand] ∧
        ¬ (h.player ⟨0⟩).essence.canAfford [.essence .cup] 0 := by
    intro g i found controlled payable change
    obtain ⟨h, paid, -, left, spends⟩ :=
      Game.spends_in_turn found controlled payable ⟨0⟩ (by decide +kernel)
    have wand := left.trans change
    obtain ⟨k, ran, -, turn, -⟩ := spends [] _ [] _ rfl rfl
    obtain rfl : h = k := congrArg Prod.snd ran
    refine ⟨h, paid, wand, fun can => ?_⟩
    have held := turn.1 can
    rw [wand] at held
    exact absurd held (by decide)
  exact spent _ _ (Option.some_get (by decide +kernel)).symm (by decide +kernel) (by decide +kernel)
    (by decide +kernel)

end CardGame
