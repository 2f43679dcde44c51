/-!
Life, damage and printed numbers are signed 64-bit amounts. Arithmetic on them stops at the two ends
of the range instead of wrapping, so a sum never changes its direction.
-/

namespace CardGame

/-- A signed 64-bit amount of life, damage, essence or cards. -/
abbrev Amount := Int64

namespace Amount

def clamp (n : Int) : Amount :=
  Int64.ofIntClamp n

/-- Sum, stopped at the ends of the range. -/
def plus (a b : Amount) : Amount :=
  clamp (a.toInt + b.toInt)

def minus (a b : Amount) : Amount :=
  clamp (a.toInt - b.toInt)

def opposite (a : Amount) : Amount :=
  clamp (-a.toInt)

/-- How often something happens for this amount: never when it is negative. -/
def times (a : Amount) : Nat :=
  a.toInt.toNat

theorem toInt_clamp {n : Int} (low : Int64.minValue.toInt ≤ n) (high : n ≤ Int64.maxValue.toInt) :
    (clamp n).toInt = n :=
  Int64.toInt_ofIntClamp low high

theorem clamp_toInt (a : Amount) : clamp a.toInt = a := by
  apply Int64.toInt_inj.1
  exact toInt_clamp a.minValue_le_toInt a.toInt_le

end Amount

end CardGame
