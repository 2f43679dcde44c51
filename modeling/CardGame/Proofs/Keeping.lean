import CardGame.Game.State

/-!
Properties of games that operations keep, whatever the outcome. An operation keeps a property as
soon as its parts do, so a fact about a whole run comes down to the single changes that the run is
made of. The frame of an operation is such a property too: being in a given relation to the game at
the start.
-/

namespace CardGame

variable {α β : Type} {P : Game → Prop}

namespace Step

/-- Two operations do the same to every game with a property, and end in a game with it. -/
def Agree (P : Game → Prop) (m n : Step α) : Prop :=
  ∀ g, P g → StateT.run m g = StateT.run n g ∧ P (StateT.run m g).2

def Keeps (P : Game → Prop) (m : Step α) : Prop :=
  ∀ g, P g → P (StateT.run m g).2

theorem Agree.keeps {m n : Step α} (h : Agree P m n) : Keeps P m :=
  fun g start => (h g start).2

theorem Keeps.agree {m : Step α} (h : Keeps P m) : Agree P m m :=
  fun g start => ⟨rfl, h g start⟩

theorem Agree.bind {m n : Step α} {f k : α → Step β} (first : Agree P m n)
    (next : ∀ a, Agree P (f a) (k a)) : Agree P (m >>= f) (n >>= k) := by
  intro g start
  obtain ⟨same, kept⟩ := first g start
  have rest := next (StateT.run m g).1 (StateT.run m g).2 kept
  refine ⟨?_, rest.2⟩
  change StateT.run (f (StateT.run m g).1) (StateT.run m g).2 =
    StateT.run (k (StateT.run n g).1) (StateT.run n g).2
  rw [rest.1, same]

theorem Keeps.bind {m : Step α} {f : α → Step β} (first : Keeps P m) (next : ∀ a, Keeps P (f a)) :
    Keeps P (m >>= f) :=
  (first.agree.bind fun a => (next a).agree).keeps

theorem keeps_pure (a : α) : Keeps P (pure a : Step α) :=
  fun _ start => start

theorem keeps_get : Keeps P (get : Step Game) :=
  fun _ start => start

theorem keeps_modify {f : Game → Game} (h : ∀ g, P g → P (f g)) : Keeps P (modify f : Step Unit) :=
  h

theorem keeps_modifyGet {f : Game → α × Game} (h : ∀ g, P g → P (f g).2) :
    Keeps P (modifyGet f : Step α) :=
  h

theorem Keeps.map {m : Step α} (h : Keeps P m) (f : α → β) : Keeps P (f <$> m) :=
  fun g start => h g start

theorem Agree.forM {f k : α → Step Unit} (h : ∀ a, Agree P (f a) (k a)) (l : List α) :
    Agree P (l.forM f) (l.forM k) := by
  induction l with
  | nil => exact (keeps_pure ()).agree
  | cons a rest ih => exact (h a).bind fun _ => ih

theorem Keeps.forM {f : α → Step Unit} (h : ∀ a, Keeps P (f a)) (l : List α) :
    Keeps P (l.forM f) :=
  (Agree.forM (fun a => (h a).agree) l).keeps

/-- From a game with a property every run ends with a result and a game that are in a relation. -/
def Ends (P : Game → Prop) (m : Step α) (Q : α → Game → Prop) : Prop :=
  ∀ g, P g → Q (StateT.run m g).1 (StateT.run m g).2

section Ends

variable {Q : α → Game → Prop} {R : β → Game → Prop}

theorem Ends.bind {m : Step α} {f : α → Step β} (first : Ends P m Q)
    (next : ∀ a, Ends (Q a) (f a) R) : Ends P (m >>= f) R :=
  fun g start => next _ _ (first g start)

theorem ends_pure {a : α} (h : ∀ g, P g → Q a g) : Ends P (pure a : Step α) Q :=
  h

theorem ends_get {Q : Game → Game → Prop} (h : ∀ g, P g → Q g g) : Ends P (get : Step Game) Q :=
  h

theorem ends_readGiven {g : Game} :
    Ends (fun h => h = g) (get : Step Game) fun known h => known = g ∧ h = g :=
  ends_get fun _ same => ⟨same, same⟩

theorem Ends.given {m : Step α} {fact : Prop} (h : fact → Ends P m Q) :
    Ends (fun g => fact ∧ P g) m Q :=
  fun g start => h start.1 g start.2

theorem Ends.weaken {m : Step α} {P' : Game → Prop} {Q' : α → Game → Prop} (h : Ends P m Q)
    (start : ∀ g, P' g → P g) (after : ∀ a g, Q a g → Q' a g) : Ends P' m Q' :=
  fun g before => after _ _ (h g (start g before))

theorem Keeps.ends {m : Step α} (h : Keeps P m) : Ends P m fun _ => P :=
  h

end Ends

def Gives (m : Step α) (Q : α → Prop) : Prop :=
  ∀ g, Q (StateT.run m g).1

theorem gives_pure {Q : α → Prop} {a : α} (h : Q a) : Gives (pure a : Step α) Q :=
  fun _ => h

theorem Gives.bind_of {m : Step α} {f : α → Step β} {Q : α → Prop} {R : β → Prop}
    (first : Gives m Q) (next : ∀ a, Q a → Gives (f a) R) : Gives (m >>= f) R :=
  fun g => next (StateT.run m g).1 (first g) (StateT.run m g).2

theorem Gives.bind {m : Step α} {f : α → Step β} {R : β → Prop} (next : ∀ a, Gives (f a) R) :
    Gives (m >>= f) R :=
  fun g => next (StateT.run m g).1 (StateT.run m g).2

end Step

namespace Act

def Keeps (P : Game → Prop) (act : Act α) : Prop :=
  Step.Keeps P (ExceptT.run act)

theorem keeps_pure (a : α) : Keeps P (pure a : Act α) :=
  Step.keeps_pure (Except.ok a)

theorem keeps_throw (e : EngineError) : Keeps P (throw e : Act α) :=
  Step.keeps_pure (Except.error e)

theorem Keeps.bind {act : Act α} {f : α → Act β} (first : Keeps P act) (next : ∀ a, Keeps P (f a)) :
    Keeps P (act >>= f) := by
  intro g start
  have middle : P (StateT.run (ExceptT.run act) g).2 := first g start
  change P (StateT.run (ExceptT.bindCont f (StateT.run (ExceptT.run act) g).1)
    (StateT.run (ExceptT.run act) g).2).2
  cases (StateT.run (ExceptT.run act) g).1 with
  | ok a => exact next a _ middle
  | error e => exact middle

theorem keeps_lift {m : Step α} (h : Step.Keeps P m) : Keeps P (liftM m : Act α) :=
  h.map Except.ok

theorem keeps_getThe : Keeps P (getThe Game : Act Game) :=
  keeps_lift Step.keeps_get

theorem keeps_modifyThe {f : Game → Game} (h : ∀ g, P g → P (f g)) :
    Keeps P (modifyThe Game f : Act Unit) :=
  keeps_lift (Step.keeps_modify h)

theorem Keeps.map {act : Act α} (h : Keeps P act) (f : α → β) : Keeps P (f <$> act) := by
  rw [map_eq_pure_bind]
  exact h.bind fun a => keeps_pure (f a)

theorem Keeps.forM {f : α → Act Unit} (h : ∀ a, Keeps P (f a)) (l : List α) :
    Keeps P (l.forM f) := by
  induction l with
  | nil => exact keeps_pure ()
  | cons a rest ih => exact (h a).bind fun _ => ih

theorem Keeps.foldlM {f : β → α → Act β} (h : ∀ b a, Keeps P (f b a)) (l : List α) (b : β) :
    Keeps P (l.foldlM f b) := by
  induction l generalizing b with
  | nil => exact keeps_pure b
  | cons a rest ih => exact (h b a).bind fun b => ih b

theorem Keeps.filterM {f : α → Act Bool} (h : ∀ a, Keeps P (f a)) (l : List α) :
    Keeps P (l.filterM f) := by
  have loop : ∀ l done : List α, Keeps P (List.filterAuxM f l done) := by
    intro l
    induction l with
    | nil => exact fun done => keeps_pure done
    | cons a rest ih => exact fun done => (h a).bind fun taken => ih (cond taken (a :: done) done)
  exact (loop l []).bind fun done => keeps_pure done.reverse

theorem run_of_result {act : Act α} {g : Game} {result : Except EngineError α}
    (same : (StateT.run (ExceptT.run act) g).1 = result) :
    StateT.run (ExceptT.run act) g = (result, (StateT.run (ExceptT.run act) g).2) :=
  Prod.ext same rfl

theorem run_of_lift {m : Step α} {g h : Game} {a : α}
    (ran : StateT.run (ExceptT.run (liftM m : Act α)) g = (.ok a, h)) :
    StateT.run m g = (a, h) := by
  have result : (.ok (StateT.run m g).1 : Except EngineError α) = .ok a := congrArg Prod.fst ran
  have left : (StateT.run m g).2 = h := congrArg Prod.snd ran
  exact Prod.ext (Except.ok.inj result) left

theorem run_bind_of_ok {act : Act α} {f : α → Act β} {g h : Game} {a : α}
    (ran : StateT.run (ExceptT.run act) g = (.ok a, h)) :
    StateT.run (ExceptT.run (act >>= f)) g = StateT.run (ExceptT.run (f a)) h := by
  change StateT.run (ExceptT.bindCont f (StateT.run (ExceptT.run act) g).1)
    (StateT.run (ExceptT.run act) g).2 = _
  rw [ran]
  rfl

theorem run_bind_of_error {act : Act α} {f : α → Act β} {g h : Game} {e : EngineError}
    (ran : StateT.run (ExceptT.run act) g = (.error e, h)) :
    StateT.run (ExceptT.run (act >>= f)) g = (.error e, h) := by
  change StateT.run (ExceptT.bindCont f (StateT.run (ExceptT.run act) g).1)
    (StateT.run (ExceptT.run act) g).2 = _
  rw [ran]
  rfl

theorem run_getThe (g : Game) : StateT.run (ExceptT.run (getThe Game : Act Game)) g = (.ok g, g) :=
  rfl

theorem run_card {g : Game} {c : CardId} {i : CardInstance} (found : g.card? c = some i) :
    StateT.run (ExceptT.run (card c)) g = (.ok i, g) := by
  rw [card, run_bind_of_ok (run_getThe g), found]
  rfl

theorem run_require {condition : Bool} (met : condition) (e : EngineError) (g : Game) :
    StateT.run (ExceptT.run (require condition e)) g = (.ok (), g) := by
  rw [require, if_pos met]
  rfl

theorem run_require_of_not {condition : Bool} (unmet : ¬ condition) (e : EngineError) (g : Game) :
    StateT.run (ExceptT.run (require condition e)) g = (.error e, g) := by
  rw [require, if_neg unmet]
  rfl

theorem run_bind_ok {act : Act α} {f : α → Act β} {g h : Game} {b : β}
    (ran : StateT.run (ExceptT.run (act >>= f)) g = (.ok b, h)) :
    ∃ a k, StateT.run (ExceptT.run act) g = (.ok a, k) ∧
      StateT.run (ExceptT.run (f a)) k = (.ok b, h) := by
  change StateT.run (ExceptT.bindCont f (StateT.run (ExceptT.run act) g).1)
    (StateT.run (ExceptT.run act) g).2 = _ at ran
  cases first : StateT.run (ExceptT.run act) g with
  | mk result k =>
    rw [first] at ran
    cases result with
    | ok a => exact ⟨a, k, rfl, ran⟩
    | error e => exact nomatch ran

theorem run_bind_congr {act other : Act α} {f k : α → Act β} {g : Game}
    (first : StateT.run (ExceptT.run act) g = StateT.run (ExceptT.run other) g)
    (next : ∀ a h, StateT.run (ExceptT.run act) g = (.ok a, h) →
      StateT.run (ExceptT.run (f a)) h = StateT.run (ExceptT.run (k a)) h) :
    StateT.run (ExceptT.run (act >>= f)) g = StateT.run (ExceptT.run (other >>= k)) g := by
  change StateT.run (ExceptT.bindCont f (StateT.run (ExceptT.run act) g).1)
      (StateT.run (ExceptT.run act) g).2 =
    StateT.run (ExceptT.bindCont k (StateT.run (ExceptT.run other) g).1)
      (StateT.run (ExceptT.run other) g).2
  rw [← first]
  cases ran : StateT.run (ExceptT.run act) g with
  | mk result h =>
    cases result with
    | ok a => exact next a h ran
    | error e => rfl

def Ends (P : Game → Prop) (act : Act α) (Q : α → Game → Prop)
    (F : EngineError → Game → Prop) : Prop :=
  ∀ g, P g → match StateT.run (ExceptT.run act) g with
    | (.ok a, h) => Q a h
    | (.error e, h) => F e h

section Ends

variable {Q : α → Game → Prop} {R : β → Game → Prop} {F : EngineError → Game → Prop}

theorem Ends.bind {act : Act α} {f : α → Act β} (first : Ends P act Q F)
    (next : ∀ a, Ends (Q a) (f a) R F) : Ends P (act >>= f) R F := by
  intro g start
  have middle := first g start
  change match StateT.run (ExceptT.bindCont f (StateT.run (ExceptT.run act) g).1)
      (StateT.run (ExceptT.run act) g).2 with
    | (.ok b, h) => R b h
    | (.error e, h) => F e h
  cases ran : StateT.run (ExceptT.run act) g with
  | mk result h =>
    rw [ran] at middle
    cases result with
    | ok a => exact next a h middle
    | error e => exact middle

theorem ends_pure {a : α} (h : ∀ g, P g → Q a g) : Ends P (pure a : Act α) Q F :=
  h

theorem ends_throw {e : EngineError} (h : ∀ g, P g → F e g) : Ends P (throw e : Act α) Q F :=
  h

theorem ends_lift {m : Step α} (h : Step.Ends P m Q) : Ends P (liftM m : Act α) Q F :=
  h

theorem ends_getThe {Q : Game → Game → Prop} (h : ∀ g, P g → Q g g) :
    Ends P (getThe Game : Act Game) Q F :=
  h

theorem ends_modifyThe {f : Game → Game} {Q : Unit → Game → Prop} (h : ∀ g, P g → Q () (f g)) :
    Ends P (modifyThe Game f : Act Unit) Q F :=
  h

theorem ends_readGame : Ends P (getThe Game) (fun known g => known = g ∧ P g) F :=
  ends_getThe fun _ start => ⟨rfl, start⟩

theorem ends_readGiven {g : Game} :
    Ends (fun h => h = g) (getThe Game) (fun known h => known = g ∧ h = g) F :=
  ends_getThe fun _ same => ⟨same, same⟩

theorem ends_card {c : CardId} {Q : CardInstance → Game → Prop}
    (found : ∀ g i, P g → g.card? c = some i → Q i g)
    (missing : ∀ g, P g → g.card? c = none → F (.unknownCard c) g) : Ends P (card c) Q F := by
  refine ends_readGame.bind fun known => ?_
  split
  · next i held => exact ends_pure fun g start => found g i start.2 (start.1 ▸ held)
  · next none => exact ends_throw fun g start => missing g start.2 (start.1 ▸ none)

theorem ends_readCard {c : CardId} {i : CardInstance} (found : ∀ g, P g → g.card? c = some i) :
    Ends P (card c) (fun j g => j = i ∧ P g) F := by
  refine ends_card (fun g j start known => ⟨?_, start⟩) fun g start missing => ?_
  · exact Option.some.inj (known.symm.trans (found g start))
  · exact nomatch missing.symm.trans (found g start)

theorem ends_require {condition : Bool} {e : EngineError} {Q : Unit → Game → Prop}
    (met : ∀ g, P g → condition = true → Q () g) (unmet : ∀ g, P g → condition = false → F e g) :
    Ends P (require condition e) Q F := by
  unfold require
  split
  · next holds => exact ends_pure fun g start => met g start holds
  · next fails => exact ends_throw fun g start => unmet g start (Bool.eq_false_iff.2 fails)

theorem Ends.weaken {act : Act α} {P' : Game → Prop} {Q' : α → Game → Prop}
    {F' : EngineError → Game → Prop} (h : Ends P act Q F) (start : ∀ g, P' g → P g)
    (success : ∀ a g, Q a g → Q' a g) (failure : ∀ e g, F e g → F' e g) : Ends P' act Q' F' := by
  intro g before
  have led := h g (start g before)
  cases ran : StateT.run (ExceptT.run act) g with
  | mk result k =>
    rw [ran] at led
    cases result with
    | ok a => exact success a k led
    | error e => exact failure e k led

theorem Ends.starting {act : Act α} {P' : Game → Prop} (h : Ends P act Q F)
    (start : ∀ g, P' g → P g) :
    Ends P' act Q F :=
  fun g before => h g (start g before)

theorem Ends.after {act : Act α} {Q' : α → Game → Prop} (h : Ends P act Q F)
    (success : ∀ a g, Q a g → Q' a g) : Ends P act Q' F :=
  h.weaken (fun _ start => start) success fun _ _ failed => failed

theorem Ends.failing {act : Act α} {F' : EngineError → Game → Prop} (h : Ends P act Q F)
    (failure : ∀ e g, F e g → F' e g) : Ends P act Q F' :=
  h.weaken (fun _ start => start) (fun _ _ done => done) failure

theorem ends_step {m : Step α} (h : Step.Keeps P m) : Ends P (liftM m : Act α) (fun _ => P) F :=
  ends_lift h

theorem Ends.forM {f : α → Act Unit} {l : List α} (h : ∀ a ∈ l, Ends P (f a) (fun _ => P) F) :
    Ends P (l.forM f) (fun _ => P) F := by
  induction l with
  | nil => exact ends_pure fun _ start => start
  | cons a rest ih => exact (h a (.head _)).bind fun _ => ih fun b mem => h b (.tail _ mem)

theorem Ends.foldlM {f : β → α → Act β} {R : β → Game → Prop} {l : List α}
    (h : ∀ b, ∀ a ∈ l, Ends (R b) (f b a) R F) (b : β) : Ends (R b) (l.foldlM f b) R F := by
  induction l generalizing b with
  | nil => exact ends_pure fun _ start => start
  | cons a rest ih => exact (h b a (.head _)).bind (ih fun c d mem => h c d (.tail _ mem))

theorem Ends.filterM {f : α → Act Bool} {l : List α} (h : ∀ a ∈ l, Ends P (f a) (fun _ => P) F) :
    Ends P (l.filterM f) (fun kept g => (∀ a ∈ kept, a ∈ l) ∧ P g) F := by
  have loop : ∀ rest done : List α, (∀ a ∈ rest, a ∈ l) → (∀ a ∈ done, a ∈ l) →
      Ends P (List.filterAuxM f rest done) (fun kept g => (∀ a ∈ kept, a ∈ l) ∧ P g) F := by
    intro rest
    induction rest with
    | nil => exact fun done _ before => ends_pure fun g start => ⟨before, start⟩
    | cons a rest ih =>
      intro done later before
      refine (h a (later a (.head _))).bind fun taken =>
        ih _ (fun b mem => later b (.tail _ mem)) ?_
      cases taken with
      | false => exact before
      | true => exact List.forall_mem_cons.2 ⟨later a (.head _), before⟩
  exact (loop l [] (fun _ mem => mem) fun _ mem => nomatch mem).bind fun done =>
    ends_pure fun g kept => ⟨fun a mem => kept.1 a (List.mem_reverse.1 mem), kept.2⟩

theorem Ends.filterM_eq {f : α → Act Bool} {q : α → Bool} {g : Game}
    (h : ∀ a, Ends (fun k => k = g) (f a) (fun taken k => taken = q a ∧ k = g) F) (l : List α) :
    Ends (fun k => k = g) (l.filterM f) (fun kept k => kept = l.filter q ∧ k = g) F := by
  have loop : ∀ rest done : List α, Ends (fun k => k = g) (List.filterAuxM f rest done)
      (fun kept k => kept.reverse = done.reverse ++ rest.filter q ∧ k = g) F := by
    intro rest
    induction rest with
    | nil => exact fun done => ends_pure fun k same => ⟨(List.append_nil _).symm, same⟩
    | cons a rest ih =>
      intro done
      refine (h a).bind fun taken k start => ?_
      refine ((ih _).weaken (fun _ same => same) (fun kept k given => ⟨given.1.trans ?_, given.2⟩)
        fun _ _ failed => failed) k start.2
      rw [List.filter_cons, ← start.1]
      cases taken <;> simp
  exact (loop l []).bind fun kept => ends_pure fun k given => given

theorem Ends.given {act : Act α} {fact : Prop} (h : fact → Ends P act Q F) :
    Ends (fun g => fact ∧ P g) act Q F :=
  fun g start => h start.1 g start.2

theorem Ends.keeping {act : Act α} {K : Game → Prop} (h : Ends P act Q F) (kept : Keeps K act) :
    Ends (fun g => P g ∧ K g) act (fun a g => Q a g ∧ K g) F := by
  intro g start
  have led := h g start.1
  have held : K (StateT.run (ExceptT.run act) g).2 := kept g start.2
  cases ran : StateT.run (ExceptT.run act) g with
  | mk result k =>
    rw [ran] at led held
    cases result with
    | ok a => exact ⟨led, held⟩
    | error e => exact led

theorem Ends.success {act : Act α} (ends : Ends P act Q F) {g h : Game} {a : α} (start : P g)
    (ran : StateT.run (ExceptT.run act) g = (.ok a, h)) : Q a h := by
  have given := ends g start
  rw [ran] at given
  exact given

theorem Ends.failure {act : Act α} (ends : Ends P act Q F) {g h : Game} {e : EngineError}
    (start : P g) (ran : StateT.run (ExceptT.run act) g = (.error e, h)) : F e h := by
  have given := ends g start
  rw [ran] at given
  exact given

theorem Ends.succeeds {act : Act α} (ends : Ends P act Q fun _ _ => False) {g : Game}
    (start : P g) :
    ∃ a h, StateT.run (ExceptT.run act) g = (.ok a, h) ∧ Q a h := by
  have given := ends g start
  cases ran : StateT.run (ExceptT.run act) g with
  | mk result h =>
    rw [ran] at given
    cases result with
    | ok a => exact ⟨a, h, rfl, given⟩
    | error e => exact given.elim

end Ends

/-- From a game with a property an operation succeeds with a result and a game that are in a
relation, or fails in a game with another property. -/
def Leads (P : Game → Prop) (act : Act α) (Q : α → Game → Prop) (E : Game → Prop) : Prop :=
  ∀ g, P g → match StateT.run (ExceptT.run act) g with
    | (.ok a, h) => Q a h
    | (.error _, h) => E h

section Leads

variable {Q : α → Game → Prop} {R : β → Game → Prop} {E : Game → Prop}

theorem Leads.ends {act : Act α} (led : Leads P act Q E) : Ends P act Q fun _ => E :=
  led

theorem Ends.leads {act : Act α} (ends : Ends P act Q fun _ => E) : Leads P act Q E :=
  ends

theorem Leads.bind {act : Act α} {f : α → Act β} (first : Leads P act Q E)
    (next : ∀ a, Leads (Q a) (f a) R E) : Leads P (act >>= f) R E :=
  (first.ends.bind fun a => (next a).ends).leads

theorem leads_pure {a : α} (h : ∀ g, P g → Q a g) : Leads P (pure a : Act α) Q E :=
  h

theorem leads_throw {e : EngineError} (h : ∀ g, P g → E g) : Leads P (throw e : Act α) Q E :=
  h

theorem leads_lift {m : Step α} (h : ∀ g, P g → Q (StateT.run m g).1 (StateT.run m g).2) :
    Leads P (liftM m : Act α) Q E :=
  h

theorem leads_getThe {Q : Game → Game → Prop} (h : ∀ g, P g → Q g g) :
    Leads P (getThe Game : Act Game) Q E :=
  h

theorem leads_modifyThe {f : Game → Game} {Q : Unit → Game → Prop} (h : ∀ g, P g → Q () (f g)) :
    Leads P (modifyThe Game f : Act Unit) Q E :=
  h

theorem leads_card {c : CardId} {Q : CardInstance → Game → Prop}
    (found : ∀ g i, P g → g.card? c = some i → Q i g) (missing : ∀ g, P g → E g) :
    Leads P (card c) Q E :=
  (ends_card found fun g start _ => missing g start).leads

theorem leads_require {condition : Bool} {e : EngineError} {Q : Unit → Game → Prop}
    (met : ∀ g, P g → condition = true → Q () g) (unmet : ∀ g, P g → E g) :
    Leads P (require condition e) Q E :=
  (ends_require met fun g start _ => unmet g start).leads

theorem Keeps.leads {act : Act α} (h : Keeps P act) : Leads P act (fun _ => P) P := by
  intro g start
  have kept : P (StateT.run (ExceptT.run act) g).2 := h g start
  cases ran : StateT.run (ExceptT.run act) g with
  | mk result h =>
    rw [ran] at kept
    cases result with
    | ok a => exact kept
    | error e => exact kept

theorem Leads.weaken {act : Act α} {Q' : α → Game → Prop} {E' : Game → Prop} (h : Leads P act Q E)
    (success : ∀ a g, Q a g → Q' a g) (failure : ∀ g, E g → E' g) : Leads P act Q' E' :=
  (h.ends.weaken (fun _ start => start) success fun _ => failure).leads

theorem Leads.given {act : Act α} {F : Prop} (h : F → Leads P act Q E) :
    Leads (fun g => F ∧ P g) act Q E :=
  fun g start => h start.1 g start.2

theorem Leads.success {act : Act α} (led : Leads P act Q E) {g h : Game} {a : α} (start : P g)
    (ran : StateT.run (ExceptT.run act) g = (.ok a, h)) : Q a h :=
  led.ends.success start ran

theorem Leads.left {act : Act α} {R : Game → Prop} (h : Leads P act Q E)
    (success : ∀ a g, Q a g → R g) (failure : ∀ g, E g → R g) {g : Game} (start : P g) :
    R (StateT.run (ExceptT.run act) g).2 := by
  have led := h g start
  cases ran : StateT.run (ExceptT.run act) g with
  | mk result k =>
    rw [ran] at led
    cases result with
    | ok a => exact success a k led
    | error e => exact failure k led

theorem Leads.keeps {act : Act α} (h : Leads P act (fun _ => P) P) : Keeps P act :=
  fun _ start => h.left (fun _ _ kept => kept) (fun _ kept => kept) start

end Leads

def Gives (act : Act α) (Q : α → Prop) : Prop :=
  Leads (fun _ => True) act (fun a _ => Q a) (fun _ => True)

section Gives

variable {Q : α → Prop} {R : β → Prop}

theorem gives_pure {a : α} (h : Q a) : Gives (pure a : Act α) Q :=
  leads_pure fun _ _ => h

theorem gives_throw (e : EngineError) : Gives (throw e : Act α) Q :=
  leads_throw fun _ _ => trivial

theorem Gives.bind_of {act : Act α} {f : α → Act β} (first : Gives act Q)
    (next : ∀ a, Q a → Gives (f a) R) : Gives (act >>= f) R :=
  Leads.bind first fun a g given => next a given g trivial

theorem Gives.bind {act : Act α} {f : α → Act β} (next : ∀ a, Gives (f a) R) :
    Gives (act >>= f) R := by
  have anything : Gives act fun _ => True := Keeps.leads fun _ _ => trivial
  exact anything.bind_of fun a _ => next a

theorem gives_lift {m : Step α} (h : Step.Gives m Q) : Gives (liftM m : Act α) Q :=
  leads_lift fun g _ => h g

theorem Gives.foldlM {R : β → β → Prop} {f : β → α → Act β} (refl : ∀ b, R b b)
    (trans : ∀ {a b c}, R a b → R b c → R a c) (step : ∀ b a, Gives (f b a) (R b)) (l : List α)
    (b : β) : Gives (l.foldlM f b) (R b) := by
  induction l generalizing b with
  | nil => exact gives_pure (refl b)
  | cons a rest ih =>
    exact (step b a).bind_of fun c first => (ih c).weaken (fun _ _ => trans first) fun _ h => h

theorem Keeps.leads_of {act : Act α} (kept : Keeps P act) (gives : Gives act Q) :
    Leads P act (fun a g => P g ∧ Q a) P := by
  intro g start
  have led := kept.leads g start
  have given := gives g trivial
  cases ran : StateT.run (ExceptT.run act) g with
  | mk result h =>
    rw [ran] at led given
    cases result with
    | ok a => exact ⟨led, given⟩
    | error e => exact led

end Gives

theorem Ends.giving {Q R : α → Game → Prop} {F : EngineError → Game → Prop} {S : α → Prop}
    {act : Act α} (h : Ends P act Q F) (gives : Gives act S)
    (both : ∀ a g, Q a g → S a → R a g) : Ends P act R F := by
  intro g start
  have led := h g start
  have given := gives g trivial
  cases ran : StateT.run (ExceptT.run act) g with
  | mk result k =>
    rw [ran] at led given
    cases result with
    | ok a => exact both a k led given
    | error e => exact led

theorem keeps_card (c : CardId) : Keeps P (card c) := by
  refine keeps_getThe.bind fun g => ?_
  split
  · exact keeps_pure _
  · exact keeps_throw _

theorem keeps_changeCard {f : CardInstance → CardInstance} {c : CardId}
    (h : ∀ g, P g → P (g.modifyCard c f)) : Keeps P (changeCard c f) :=
  (keeps_card c).bind fun _ => keeps_modifyThe h

theorem keeps_require (condition : Bool) (e : EngineError) : Keeps P (require condition e) := by
  unfold require
  split
  · exact keeps_pure ()
  · exact keeps_throw e

theorem keeps_ofOutcome (r : Except EngineError α) : Keeps P (ofOutcome r) := by
  cases r with
  | ok a => exact keeps_pure a
  | error e => exact keeps_throw e

theorem Keeps.outcome {act : Act α} (h : Keeps P act) : Step.Keeps P (outcome act) :=
  h

theorem Keeps.attempt {act : Act α} (h : Keeps P act) : Keeps P (attempt act) :=
  keeps_lift h

theorem Leads.outcome {act : Act α} {Q : α → Game → Prop} {E : Game → Prop}
    (led : Leads P act Q E) :
    Step.Ends P (outcome act) fun result h => match result with
      | .ok a => Q a h
      | .error _ => E h := by
  intro h start
  have after := led h start
  change match (StateT.run (ExceptT.run act) h).1 with
    | .ok a => Q a (StateT.run (ExceptT.run act) h).2
    | .error _ => E (StateT.run (ExceptT.run act) h).2
  cases ran : StateT.run (ExceptT.run act) h with
  | mk result k =>
    rw [ran] at after
    cases result <;> exact after

theorem Leads.attempt {act : Act α} {R E : Game → Prop} (h : Leads P act (fun _ => R) R) :
    Leads P (attempt act) (fun _ => R) E :=
  leads_lift fun _ start => h.left (fun _ _ done => done) (fun _ failed => failed) start

end Act

end CardGame
