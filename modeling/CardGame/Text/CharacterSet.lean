/-!
Sets of characters as ascending lists of code points at which membership changes. A standard's
property with thousands of members takes a few hundred bounds, and membership is one pass over them.
-/

namespace CardGame.Text

/-- The ascending code points at which membership flips; before the first nothing is a member. -/
abbrev CharacterSet := List Nat

namespace CharacterSet

/-- Whether a code point lies at or after an odd number of bounds. -/
def containsCode : CharacterSet → Nat → Bool
  | [], _ => false
  | bound :: bounds, n => decide (bound ≤ n) && !containsCode bounds n

def contains (set : CharacterSet) (c : Char) : Bool :=
  containsCode set c.toNat

theorem containsCode_of_lt {set : CharacterSet} {bound n : Nat} (h : n < bound) :
    containsCode (bound :: set) n = false := by
  simp [containsCode, Nat.not_le.2 h]

end CharacterSet

end CardGame.Text
