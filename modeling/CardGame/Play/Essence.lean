import CardGame.Card.Symbol

/-!
Pools of essence and paying from them. Colored symbols are paid first, each with a token of its
color; then every generic point takes a generic token while there is one, and the first token of the
pool after that. A payment that fails has taken the tokens it found.
-/

namespace CardGame

inductive EssenceToken where
  | colored (e : Essence)
  /-- Pays only generic costs. -/
  | generic
deriving DecidableEq, Repr

/-- Essence in the order in which it was added. -/
abbrev EssencePool := List EssenceToken

namespace EssencePool

def capacity : Nat := 1024

/-- Add what a symbol stands for, as far as there is room. -/
def add (pool : EssencePool) (c : CostSymbol) (x : Amount) : EssencePool :=
  match c with
  | .essence e => if pool.length < capacity then pool ++ [.colored e] else pool
  | .generic q => pool ++ List.replicate (min (q.value x).times (capacity - pool.length)) .generic
  | _ => pool

/-- Pay the colored symbols of a cost: whether they could be paid, and what is left. -/
def payColors (pool : EssencePool) : List CostSymbol → Bool × EssencePool
  | [] => (true, pool)
  | .essence e :: rest =>
    if .colored e ∈ pool then payColors (pool.erase (.colored e)) rest else (false, pool)
  | _ :: rest => payColors pool rest

def payPoints (pool : EssencePool) : Nat → Bool × EssencePool
  | 0 => (true, pool)
  | n + 1 =>
    if .generic ∈ pool then
      payPoints (pool.erase .generic) n
    else
      match pool with
      | [] => (false, [])
      | _ :: rest => payPoints rest n

def payGeneric (pool : EssencePool) (x : Amount) : List CostSymbol → Bool × EssencePool
  | [] => (true, pool)
  | .generic q :: rest =>
    match payPoints pool (q.value x).times with
    | (true, pool) => payGeneric pool x rest
    | failed => failed
  | _ :: rest => payGeneric pool x rest

/-- Pay a cost: whether it could be paid in full, and what is left. -/
def pay (pool : EssencePool) (costs : List CostSymbol) (x : Amount) : Bool × EssencePool :=
  match payColors pool costs with
  | (true, pool) => payGeneric pool x costs
  | failed => failed

def canAfford (pool : EssencePool) (costs : List CostSymbol) (x : Amount) : Bool :=
  (pool.pay costs x).1

theorem length_add_le (pool : EssencePool) (c : CostSymbol) (x : Amount)
    (h : pool.length ≤ capacity) : (pool.add c x).length ≤ capacity := by
  unfold add
  split
  · split
    · simp only [List.length_append, List.length_singleton]; omega
    · exact h
  · simp only [List.length_append, List.length_replicate]; omega
  · exact h

theorem payColors_sublist (pool : EssencePool) (costs : List CostSymbol) :
    (pool.payColors costs).2.Sublist pool := by
  fun_induction payColors with
  | case2 pool e rest held ih => exact ih.trans List.erase_sublist
  | case4 pool symbol rest other ih => exact ih
  | _ => exact List.Sublist.refl _

theorem payPoints_sublist (pool : EssencePool) (n : Nat) : (pool.payPoints n).2.Sublist pool := by
  fun_induction payPoints with
  | case2 pool n held ih => exact ih.trans List.erase_sublist
  | case4 n first rest none ih => exact ih.trans (List.sublist_cons_self _ _)
  | _ => exact List.Sublist.refl _

theorem payGeneric_sublist (pool : EssencePool) (x : Amount) (costs : List CostSymbol) :
    (pool.payGeneric x costs).2.Sublist pool := by
  fun_induction payGeneric with
  | case1 pool => exact List.Sublist.refl _
  | case2 pool q rest left paid ih =>
    have taken := payPoints_sublist pool (q.value x).times
    rw [paid] at taken
    exact ih.trans taken
  | case3 pool q rest => exact payPoints_sublist pool _
  | case4 pool symbol rest other ih => exact ih

/-- A payment takes tokens, also when it fails, and adds none. -/
theorem pay_sublist (pool : EssencePool) (costs : List CostSymbol) (x : Amount) :
    (pool.pay costs x).2.Sublist pool := by
  have taken := payColors_sublist pool costs
  unfold pay
  split
  · next left paid =>
    rw [paid] at taken
    exact (payGeneric_sublist left x costs).trans taken
  · exact taken

end EssencePool

end CardGame
