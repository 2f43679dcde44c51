import CardGame.Game.Action
import CardGame.Proofs.Emission

/-!
The identity of a use while it is paid for and resolved. What a use is to do, its targets and the
cards sacrificed for it change; its number, its kind, its source and whatever else it was made with
do not.
-/

namespace CardGame.Act

theorem sacrificeEach_becomes (u : AbilityUse) (cards : List CardId) :
    Gives (sacrificeEach u cards) u.Becomes := by
  induction cards generalizing u with
  | nil => exact gives_pure (.refl u)
  | cons c rest ih =>
    refine Gives.bind fun _ => Gives.bind fun _ => (ih _).weaken (fun v _ next => ?_) fun _ h => h
    exact AbilityUse.Becomes.trans (v := { u with sacrificed := u.sacrificed ++ [c] }) rfl next

theorem sacrifice_becomes (u : AbilityUse) (p : PlayerId) (m : CardMatch) (cards : List CardId) :
    Gives (sacrifice u p m cards) u.Becomes := by
  refine Gives.bind fun owned => ?_
  split
  · refine Gives.bind fun chosen => ?_
    split
    · exact gives_pure (.refl u)
    · exact sacrificeEach_becomes u _
  · exact sacrificeEach_becomes u _

theorem applyToPlayer_becomes (u : AbilityUse) (e : PlayerEffect) (p : PlayerId)
    (objects : List ObjectRef) : Gives (applyToPlayer u e p objects) u.Becomes := by
  have unchanged : Gives (pure u : Act AbilityUse) u.Becomes := gives_pure (.refl u)
  unfold applyToPlayer
  cases e with
  | sacrifice m => exact sacrifice_becomes u p m _
  | put cards position zone anyOrder randomOrder deactivated =>
    dsimp only
    split <;> exact Gives.bind fun _ => Gives.bind fun _ => unchanged
  | _ => exact Gives.bind fun _ => unchanged

theorem resolveForPlayer_becomes (e : PlannedEffect) (effect : PlayerEffect)
    (objects : List ObjectRef) (r : Resolution) (p : PlayerId) :
    Gives (resolveForPlayer e effect objects r p) fun s => r.use.Becomes s.use := by
  have applied : ∀ accepted answers, Gives (if accepted = true then do
      return ⟨← applyToPlayer r.use effect p objects, answers⟩
    else return ⟨r.use, answers⟩ : Act Resolution) fun s => r.use.Becomes s.use := by
    intro accepted answers
    split
    · exact (applyToPlayer_becomes _ _ _ _).bind_of fun v becomes => gives_pure becomes
    · exact gives_pure (.refl r.use)
  unfold resolveForPlayer
  split <;> exact Gives.bind fun a => applied a.1 a.2

theorem resolveEffect_becomes (r : Resolution) (e : PlannedEffect) :
    Gives (resolveEffect r e) fun s => r.use.Becomes s.use := by
  refine Gives.bind fun g => ?_
  dsimp only
  split
  · exact Gives.foldlM (R := fun r s => r.use.Becomes s.use) (fun r => .refl r.use)
      AbilityUse.Becomes.trans (resolveForPlayer_becomes e _ _) _ r
  · exact Gives.bind fun _ => gives_pure (.refl r.use)

theorem foldlM_becomes (es : List PlannedEffect) (r : Resolution) :
    Gives (es.foldlM resolveEffect r) fun s => r.use.Becomes s.use :=
  Gives.foldlM (R := fun r s : Resolution => r.use.Becomes s.use) (fun r => .refl r.use)
    AbilityUse.Becomes.trans resolveEffect_becomes es r

theorem resolveEffects_becomes (u : AbilityUse) : Gives (resolveEffects u) u.Becomes :=
  (foldlM_becomes u.effects ⟨u, []⟩).bind_of fun _ becomes => gives_pure becomes

theorem Gives.onBehalfOf {α : Type} {act : Act α} {Q : α → Prop} (gives : Gives act Q)
    (c : CardId) :
    Gives (onBehalfOf c act) Q := by
  refine Gives.bind fun g => Gives.bind fun _ => ?_
  have tried : Gives (attempt act) fun result => ∀ a, result = .ok a → Q a := by
    refine gives_lift fun g a (same : (StateT.run (ExceptT.run act) g).1 = .ok a) => ?_
    have given := gives g trivial
    cases ran : StateT.run (ExceptT.run act) g with
    | mk result h =>
      rw [ran] at given same
      cases same
      exact given
  refine tried.bind_of fun result given => Gives.bind fun _ => ?_
  cases result with
  | ok a => exact gives_pure (given a rfl)
  | error e => exact gives_throw e

theorem resolveNow_becomes (u : AbilityUse) : Gives (resolveNow u) u.Becomes :=
  (resolveEffects_becomes u).onBehalfOf u.source

theorem payActions_becomes (u : AbilityUse) : Gives (payActions u) u.Becomes := by
  unfold payActions
  split
  · exact gives_pure (.refl u)
  · refine (gives_lift (Step.pickUse_becomes Step.emit u)).bind_of fun v picked => ?_
    refine (resolveNow_becomes v).bind_of fun w resolved => gives_pure ?_
    exact picked.trans (resolved.trans rfl)

end CardGame.Act
