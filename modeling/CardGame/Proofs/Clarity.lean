import CardGame.Match.Text

/-!
Clear matches. The printed form of a match leaves out articles and the brackets that its structure
would need, so a part of it may be read together with what comes after. A match is clear when no
part inside it is; what could be read into its end is its opening.
-/

namespace CardGame

/-- What could still be read into the end of a printed match. -/
structure Opening where
  noun : Bool := false
  targeting : Bool := false
  trail : Bool := false
  /-- A description, because the last word is an article as well as a number. -/
  description : Bool := false
  alternatives : List Nat := []

def Opening.takesTargeting (o : Opening) : Bool :=
  o.targeting || o.description

def Opening.ofMatch (o : Opening) (single : Bool) : Opening :=
  { o with alternatives := (if single then [0] else []) ++ o.alternatives.map (· + 1) }

mutual

def Alternative.opening : Alternative → Opening
  | .filter f => CardFilter.opening f
  | _ => {}

/-- What could be read into the end of a filter: clauses that say what is targeted in any case. -/
def CardFilter.opening : CardFilter → Opening
  | ⟨_, traits, without, having, targeting⟩ =>
    let bare : Opening := { noun := without.isNone && traits.any Trait.isKind }
    { targetingOpening (havingOpening bare having) targeting with targeting := true }

def havingOpening (before : Opening) : Option Having → Opening
  | some h => Having.opening h
  | none => before

def Having.opening : Having → Opening
  | .keywords _ => {}
  | .comparison _ c => Comparison.opening c

def Comparison.opening : Comparison → Opening
  | ⟨_, _, some _⟩ => {}
  | ⟨_, count, none⟩ => { Count.opening count with trail := true }

def Count.opening : Count → Opening
  | .numberOf m => (alternativesOpening {} m).ofMatch (m.length == 1)
  | .attribute _ _ => {}
  | .value q => { description := q == .one }

def alternativesOpening (before : Opening) : List Alternative → Opening
  | [] => before
  | a :: rest => alternativesOpening (Alternative.opening a) rest

def targetingOpening (before : Opening) : List (List Alternative) → Opening
  | [] => before
  | m :: rest => targetingOpening ((alternativesOpening {} m).ofMatch (m.length == 1)) rest

end

def CardMatch.opening (m : CardMatch) : Opening :=
  (alternativesOpening {} m).ofMatch (m.length == 1)

/-- Whether the printed form of a trait begins with a number that is an article as well. -/
def Trait.startsWithArticle : Trait → Bool
  | stats s => s.power == .one
  | _ => false

mutual

def Alternative.isClear : Alternative → Bool
  | .filter f => CardFilter.isClear f
  | _ => true

def CardFilter.isClear : CardFilter → Bool
  | ⟨selector, traits, _, having, targeting⟩ =>
    (selector.isSome || !traits.head?.any Trait.startsWithArticle)
      && havingIsClear targeting.isEmpty having && targetingIsClear targeting

def havingIsClear (last : Bool) : Option Having → Bool
  | some h => Having.isClear h && (last || !(Having.opening h).takesTargeting)
  | none => true

def Having.isClear : Having → Bool
  | .keywords _ => true
  | .comparison _ c => Comparison.isClear c

def Comparison.isClear : Comparison → Bool
  | ⟨_, count, trail⟩ => Count.isClear count && (trail.isNone || !(Count.opening count).trail)

def Count.isClear : Count → Bool
  | .numberOf m => alternativesAreClear m
  | .attribute owner _ => alternativesAreClear owner
  | .value _ => true

def alternativesAreClear : List Alternative → Bool
  | [] => true
  | a :: rest =>
    Alternative.isClear a && (rest.isEmpty || (Alternative.opening a).alternatives.isEmpty)
      && alternativesAreClear rest

def targetingIsClear : List (List Alternative) → Bool
  | [] => true
  | m :: rest =>
    alternativesAreClear m
      && (rest.isEmpty
        || !((alternativesOpening {} m).ofMatch (m.length == 1)).takesTargeting)
      && targetingIsClear rest

end

def CardMatch.isClear (m : CardMatch) : Bool :=
  alternativesAreClear m

theorem CardFilter.isClear_iff (f : CardFilter) :
    f.isClear ↔ (f.selector.isSome ∨ f.traits.head?.any Trait.startsWithArticle = false) ∧
      havingIsClear f.targeting.isEmpty f.having ∧ targetingIsClear f.targeting := by
  obtain ⟨selector, traits, without, having, targeting⟩ := f
  simp [isClear, and_assoc]

theorem Comparison.isClear_iff (c : Comparison) :
    c.isClear ↔ c.count.isClear ∧ (c.trail.isSome → c.count.opening.trail = false) := by
  obtain ⟨lead, count, trail⟩ := c
  cases trail <;> simp [isClear]

theorem havingIsClear_some {last : Bool} {h : Having} (clear : havingIsClear last (some h)) :
    h.isClear ∧ (last = false → h.opening.takesTargeting = false) := by
  cases last <;> simpa [havingIsClear] using clear

theorem alternativesOpening_concat (before : Opening) (m : CardMatch) (a : Alternative) :
    alternativesOpening before (m ++ [a]) = a.opening := by
  induction m generalizing before with
  | nil => rfl
  | cons b m ih => exact ih _

theorem targetingOpening_concat (before : Opening) (ms : List CardMatch) (m : CardMatch) :
    targetingOpening before (ms ++ [m]) = m.opening := by
  induction ms generalizing before with
  | nil => rfl
  | cons n ms ih => exact ih _

theorem alternativesAreClear_append {before : CardMatch} {a : Alternative} {rest : CardMatch}
    (h : alternativesAreClear (before ++ a :: rest)) :
    a.isClear ∧ (rest ≠ [] → a.opening.alternatives = []) := by
  induction before with
  | nil =>
    simp only [List.nil_append, alternativesAreClear, Bool.and_eq_true, Bool.or_eq_true,
      List.isEmpty_iff] at h
    exact ⟨h.1.1, h.1.2.resolve_left⟩
  | cons b before ih =>
    rw [List.cons_append, alternativesAreClear, Bool.and_eq_true] at h
    exact ih h.2

theorem targetingIsClear_append {before : List CardMatch} {m : CardMatch} {rest : List CardMatch}
    (h : targetingIsClear (before ++ m :: rest)) :
    m.isClear ∧ (rest ≠ [] → m.opening.takesTargeting = false) := by
  induction before with
  | nil =>
    simp only [List.nil_append, targetingIsClear, Bool.and_eq_true, Bool.or_eq_true,
      List.isEmpty_iff, Bool.not_eq_true'] at h
    exact ⟨h.1.1, h.1.2.resolve_left⟩
  | cons n before ih =>
    rw [List.cons_append, targetingIsClear, Bool.and_eq_true] at h
    exact ih h.2

theorem CardFilter.opening_targeting (f : CardFilter) : f.opening.targeting := by
  obtain ⟨selector, traits, without, having, targeting⟩ := f
  rfl

end CardGame
