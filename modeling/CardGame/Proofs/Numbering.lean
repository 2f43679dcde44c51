import CardGame.Game.State

/-!
Numbers of uses. A use gets its number before its targets are chosen, and choosing them may put
other uses on the stack first; so numbers on the stack do not ascend, but those handed out between
two moments lie in a range of their own and differ from each other.
-/

namespace CardGame

/-- Uses whose numbers were handed out between two moments, each to one of them. -/
structure Issued (low high : Nat) (us : List AbilityUse) : Prop where
  within : ∀ u ∈ us, low ≤ u.id.number ∧ u.id.number < high
  distinct : us.Pairwise fun u v => u.id ≠ v.id

namespace Issued

theorem nil (low high : Nat) : Issued low high [] :=
  ⟨by simp, .nil⟩

theorem append {low middle high : Nat} {us vs : List AbilityUse} (before : Issued low middle us)
    (after : Issued middle high vs) (ascending : low ≤ middle) (further : middle ≤ high) :
    Issued low high (us ++ vs) := by
  constructor
  · intro u mem
    rcases List.mem_append.1 mem with mem | mem
    · have := before.within u mem
      omega
    · have := after.within u mem
      omega
  · refine List.pairwise_append.2 ⟨before.distinct, after.distinct, ?_⟩
    intro u memU v memV same
    have below := (before.within u memU).2
    have above := (after.within v memV).1
    rw [same] at below
    omega

theorem concat {low high : Nat} {us : List AbilityUse} {u : AbilityUse}
    (later : Issued (low + 1) high us) (number : u.id.number = low) (below : low < high) :
    Issued low high (us ++ [u]) := by
  constructor
  · intro v mem
    rcases List.mem_append.1 mem with mem | mem
    · have := later.within v mem
      omega
    · rw [List.mem_singleton.1 mem]
      omega
  · refine List.pairwise_append.2 ⟨later.distinct, List.pairwise_singleton _ _, ?_⟩
    intro v mem w single same
    have := (later.within v mem).1
    rw [same, List.mem_singleton.1 single] at this
    omega

theorem sublist {low high : Nat} {us vs : List AbilityUse} (h : Issued low high vs)
    (part : us.Sublist vs) : Issued low high us :=
  ⟨fun u mem => h.within u (part.subset mem), h.distinct.sublist part⟩

end Issued

/-- From one game to a later one, triggered uses were put on the stack and nothing was taken off. -/
structure Fires (g h : Game) : Prop where
  issues : g.nextUse ≤ h.nextUse
  fired : ∃ fired, h.stack.entries = g.stack.entries ++ fired ∧ (∀ u ∈ fired, u.kind = .triggered) ∧
    Issued g.nextUse h.nextUse fired

namespace Fires

theorem of_eq {g h : Game} (entries : h.stack.entries = g.stack.entries)
    (count : h.nextUse = g.nextUse) : Fires g h :=
  ⟨Nat.le_of_eq count.symm, [], by simp [entries], by simp, .nil _ _⟩

theorem refl (g : Game) : Fires g g :=
  of_eq rfl rfl

theorem trans {f g h : Game} (first : Fires f g) (next : Fires g h) : Fires f h := by
  obtain ⟨us, grown, triggered, issued⟩ := first.fired
  obtain ⟨vs, grown', triggered', issued'⟩ := next.fired
  refine ⟨Nat.le_trans first.issues next.issues, us ++ vs, ?_, ?_, ?_⟩
  · rw [grown', grown, List.append_assoc]
  · intro u mem
    exact (List.mem_append.1 mem).elim (triggered u) (triggered' u)
  · exact issued.append issued' first.issues next.issues

end Fires

structure Plays (v : AbilityUse) (g h : Game) : Prop where
  issues : g.nextUse ≤ h.nextUse
  played : ∃ fired, h.stack.entries = g.stack.entries ++ (fired ++ [v]) ∧
    (∀ u ∈ fired, u.kind = .triggered) ∧ Issued g.nextUse h.nextUse (fired ++ [v])

theorem Fires.push {g h : Game} {v : AbilityUse}
    (fires : Fires { g with nextUse := g.nextUse + 1 } h)
    (number : v.id = ⟨g.nextUse⟩) : Plays v g (h.modifyStack (·.push v)) := by
  obtain ⟨fired, grown, triggered, issued⟩ := fires.fired
  have below : g.nextUse < h.nextUse := fires.issues
  refine ⟨Nat.le_of_lt below, fired, ?_, triggered, issued.concat (by rw [number]) below⟩
  simp only [Game.modifyStack, PriorityStack.push, grown, List.append_assoc]

theorem Plays.fires {v : AbilityUse} {g h : Game} (plays : Plays v g h)
    (triggered : v.kind = .triggered) :
    Fires g h := by
  obtain ⟨fired, grown, others, issued⟩ := plays.played
  refine ⟨plays.issues, fired ++ [v], grown, ?_, issued⟩
  intro u mem
  rcases List.mem_append.1 mem with mem | mem
  · exact others u mem
  · rw [List.mem_singleton.1 mem]
    exact triggered

end CardGame
