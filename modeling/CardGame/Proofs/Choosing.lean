import CardGame.Proofs.Costs
import CardGame.Proofs.Targeting

/-!
What a choice is used for. Whatever a player replies, a choice is among the options, and it takes no
more questions than there are tries. The operations that look a choice up in the list that was put
to the player are written here once more with checked accesses, where a place that the list does not
have is a fault. They do what the operations without checks do, from every game, so that no reply
leads to a fault.
-/

namespace CardGame

variable {α β : Type}

/-- From one game to another, one player was put a prompt so many times, and no player anything
else. -/
structure Questioned (p : PlayerId) (prompt : Prompt) (times : Nat) (g h : Game) : Prop where
  asked : h.choosers.get? p =
    (g.choosers.get? p).map fun c => { c with
      past := List.replicate times (.asked prompt) ++ c.past }
  others : ∀ q, q ≠ p → h.choosers.get? q = g.choosers.get? q

def QuestionedWithin (p : PlayerId) (prompt : Prompt) (tries : Nat) (g h : Game) : Prop :=
  ∃ times ≤ tries, Questioned p prompt times g h

def Game.triesFor (g : Game) (prompt : Prompt) : Nat :=
  if prompt.size = 0 then 0 else g.config.maxPromptRetries.toNat + 1

section Questions

variable {p : PlayerId} {prompt : Prompt} {tries : Nat} {f g h : Game}

theorem QuestionedWithin.unasked (p : PlayerId) (prompt : Prompt) (tries : Nat)
    (same : h.choosers = g.choosers) :
    QuestionedWithin p prompt tries g h :=
  ⟨0, Nat.zero_le _, by simp [same], fun q _ => by rw [same]⟩

theorem QuestionedWithin.trans {more : Nat} (first : QuestionedWithin p prompt tries f g)
    (next : QuestionedWithin p prompt more g h) : QuestionedWithin p prompt (tries + more) f h := by
  obtain ⟨times, few, first⟩ := first
  obtain ⟨times', few', next⟩ := next
  refine ⟨times + times', Nat.add_le_add few few', ?_, fun q other => ?_⟩
  · rw [next.asked, first.asked, Option.map_map, Nat.add_comm times]
    exact congrArg₂ _ (funext fun c => by
      simp [← List.append_assoc, List.replicate_append_replicate]) rfl
  · exact (next.others q other).trans (first.others q other)

namespace Step

theorem ends_ask_questioned (g : Game) :
    Ends (fun h => h = g) (ask p prompt) fun _ h => QuestionedWithin p prompt 1 g h := by
  refine ends_readGiven.bind fun known => .given fun same => ?_
  subst same
  split
  · exact ends_pure fun h same => .unasked p prompt 1 (same ▸ rfl)
  · rintro h rfl
    exact ⟨1, Nat.le_refl 1, Seats.get?_modify_self _ p _,
      fun q other => Seats.get?_modify_of_ne _ other.symm _⟩

theorem ends_try_questioned {next : Reply → Step α}
    (ends : ∀ reply f, Ends (fun h => h = f) (next reply) fun _ h =>
      QuestionedWithin p prompt tries f h)
    (g : Game) :
    Ends (fun h => h = g) (ask p prompt >>= next) fun _ h =>
      QuestionedWithin p prompt (tries + 1) g h := by
  refine (ends_ask_questioned g).bind fun reply h asked => ?_
  rw [Nat.add_comm]
  exact asked.trans (ends reply h h rfl)

theorem ends_notice_questioned {rest : Step α} {n : Notice}
    (ends : ∀ f, Ends (fun h => h = f) rest fun _ h => QuestionedWithin p prompt tries f h)
    (g : Game) :
    Ends (fun h => h = g) (do notice n; rest) fun _ h => QuestionedWithin p prompt tries g h := by
  have noticed : Ends (fun h => h = g) (notice n) fun _ h => QuestionedWithin p prompt 0 g h :=
    fun h same => .unasked p prompt 0 (same ▸ rfl)
  refine noticed.bind fun _ h asked => ?_
  rw [← Nat.zero_add tries]
  exact asked.trans (ends h h rfl)

theorem ends_chooseOneWithin_questioned (tries : Nat) (g : Game) :
    Ends (fun h => h = g) (chooseOneWithin p prompt tries) fun _ h =>
      QuestionedWithin p prompt tries g h := by
  induction tries generalizing g with
  | zero => exact ends_pure fun h same => .unasked p prompt 0 (same ▸ rfl)
  | succ tries ih =>
    refine ends_try_questioned (fun reply f => ?_) g
    split
    · split
      · exact ends_pure fun h same => .unasked p prompt tries (same ▸ rfl)
      · exact ends_notice_questioned ih f
    · exact ends_pure fun h same => .unasked p prompt tries (same ▸ rfl)

theorem ends_chooseManyWithin_questioned (count tries : Nat) (g : Game) :
    Ends (fun h => h = g) (chooseManyWithin p prompt count tries)
      fun _ h => QuestionedWithin p prompt tries g h := by
  induction tries generalizing g with
  | zero => exact ends_pure fun h same => .unasked p prompt 0 (same ▸ rfl)
  | succ tries ih =>
    refine ends_try_questioned (fun reply f => ?_) g
    split
    · split
      · exact ends_notice_questioned ih f
      · exact ends_pure fun h same => .unasked p prompt tries (same ▸ rfl)
    · exact ends_pure fun h same => .unasked p prompt tries (same ▸ rfl)

theorem ends_maxTries_triesFor (options : prompt.size ≠ 0) (g : Game) :
    Ends (fun h => h = g) maxTries fun tries h => tries = g.triesFor prompt ∧ h = g := by
  rintro h rfl
  exact ⟨(if_neg options).symm, rfl⟩

theorem ends_chooseOne_questioned (p : PlayerId) (prompt : Prompt) (g : Game) :
    Ends (fun h => h = g) (chooseOne p prompt) fun _ h =>
      QuestionedWithin p prompt (g.triesFor prompt) g h := by
  unfold chooseOne
  split
  · exact ends_pure fun h same => .unasked p prompt _ (same ▸ rfl)
  · next options =>
    refine (ends_maxTries_triesFor options g).bind fun tries => .given fun same => ?_
    subst same
    exact ends_chooseOneWithin_questioned _ g

theorem ends_chooseMany_questioned (p : PlayerId) (prompt : Prompt) (count : Nat) (g : Game) :
    Ends (fun h => h = g) (chooseMany p prompt count)
      fun _ h => QuestionedWithin p prompt (g.triesFor prompt) g h := by
  unfold chooseMany
  split
  · exact ends_pure fun h same => .unasked p prompt _ (same ▸ rfl)
  · next options =>
    refine (ends_maxTries_triesFor (fun none => options (.inl none)) g).bind fun tries =>
      .given fun same => ?_
    subst same
    exact ends_chooseManyWithin_questioned count _ g

end Step

end Questions

structure IndexFault where
  index : Nat
  length : Nat
deriving DecidableEq, Repr

/-- An operation on a game that ends with a fault when a list is asked for an entry that it does not
have. -/
abbrev Checked := ExceptT IndexFault Step

abbrev CheckedAct := ExceptT EngineError Checked

def Act.checked (act : Act α) : CheckedAct α :=
  ExceptT.mk (liftM (ExceptT.run act) : Checked (Except EngineError α))

namespace Checked

def entry (l : List α) (i : Nat) : Checked α :=
  match l[i]? with
  | some a => return a
  | none => throw ⟨i, l.length⟩

def chooseEntry (p : PlayerId) (prompt : Prompt) (l : List α) : Checked (Option α) := do
  match ← Step.chooseOne p prompt with
  | none => return none
  | some i => return some (← entry l i)

def pick (announce : Announce) (u : AbilityUse) (m : Match) (zones : Option ZoneMatch) :
    Checked (List ObjectRef × AbilityUse) := do
  if m.hasTarget then
    let options := (← get).query u (some m) (some (zones.getD [.board])) none .candidates
    match (← Step.chooseMany u.controller (.target options 1) 1).head? with
    | none => return ([], u)
    | some i =>
      let target ← entry options i
      announce .target target
      return ([target], { u with targeting := u.targeting ++ [target] })
  else
    return ((← get).query u (some m) zones none .bound, u)

def actOnBoard (p : PlayerId) (c : CardId) (i : CardInstance) :
    Checked (Option (Except EngineError Unit)) := do
  let usable := (← get).usableAbilities p c
  let labels ← usable.mapM fun k => return (← entry i.activatedAbilities k).text i.card.name
  match ← chooseEntry p (.ability c labels) usable with
  | none => return none
  | some index => return some (← Act.outcome (Act.activate p c index))

def castFromHand (p : PlayerId) (c : CardId) (i : CardInstance) :
    Checked (Option (Except EngineError Unit)) := do
  if i.isPermanent then
    let free := ((← get).player p).board.freeSlots
    match ← chooseEntry p (.field free) free with
    | none => return none
    | some slot => return some (← Act.outcome (Act.cast p c (some slot)))
  else
    return some (← Act.outcome (Act.cast p c none))

def actFromHand (p : PlayerId) (c : CardId) (i : CardInstance) :
    Checked (Option (Except EngineError Unit)) := do
  match ← Step.chooseAsSource p c with
  | none => return none
  | some true => return some (← Act.outcome (Act.playSource p c))
  | some false => castFromHand p c i

def takeAction (p : PlayerId) : Checked Bool := do
  let options := (← get).playable p
  match ← chooseEntry p (.card options) options with
  | none => return false
  | some c =>
    match (← get).card? c with
    | none => return false
    | some i =>
      let result ← if i.zone = .board then actOnBoard p c i else actFromHand p c i
      match result with
      | some (.ok ()) => return true
      | _ => return false

end Checked

namespace CheckedAct

def sacrifice (u : AbilityUse) (p : PlayerId) (m : CardMatch) (cards : List CardId) :
    CheckedAct AbilityUse := do
  let owned ← (Act.ownedOnBoard p cards).checked
  if !m.hasTarget && !m.isPlural && 1 < owned.length then
    match ← Checked.chooseEntry p (.card owned) owned with
    | none => return u
    | some c => (Act.sacrificeEach u [c]).checked
  else
    (Act.sacrificeEach u owned).checked

def discardFrom (p : PlayerId) (options : List CardId) (n : Nat) : CheckedAct Unit := do
  let chosen ← Step.chooseMany p (.discard options n) n
  (Act.fillUp chosen options.length n).forM fun i => do
    let c ← (Checked.entry options i : Checked CardId)
    (Act.moveCard c .pile .top).checked
    Step.emit .discard (.card c)

def discard (p : PlayerId) (count : Amount) (eligible : Option (List CardId)) :
    CheckedAct Unit := do
  let options := Act.discardable (← getThe Game) p eligible
  discardFrom p options (min count.times options.length)

end CheckedAct

/-- In a game a checked operation comes to no fault and does what the one without checks does. -/
def Checked.Does (checked : Checked α) (step : Step α) (g : Game) : Prop :=
  StateT.run (ExceptT.run checked) g = (.ok (StateT.run step g).1, (StateT.run step g).2)

def CheckedAct.Does (checked : CheckedAct α) (act : Act α) (g : Game) : Prop :=
  Checked.Does (ExceptT.run checked) (ExceptT.run act) g

namespace Checked

variable {g : Game}

theorem does_pure (a : α) (g : Game) : Does (pure a) (pure a) g :=
  rfl

theorem does_step (step : Step α) (g : Game) : Does step step g :=
  rfl

theorem Does.bind {checked : Checked α} {step : Step α} {f : α → Checked β} {k : α → Step β}
    (first : checked.Does step g)
    (next : ∀ a h, StateT.run step g = (a, h) → (f a).Does (k a) h) :
    (checked >>= f).Does (step >>= k) g := by
  have rest := next _ _ (rfl : StateT.run step g = _)
  change StateT.run (ExceptT.bindCont f (StateT.run (ExceptT.run checked) g).1)
    (StateT.run (ExceptT.run checked) g).2 = _
  rw [show StateT.run (ExceptT.run checked) g = _ from first]
  exact rest

theorem does_entry {l : List α} {i : Nat} {a : α} (found : l[i]? = some a) (g : Game) :
    (entry l i).Does (pure a) g := by
  rw [entry, found]
  exact does_pure a g

theorem Does.value {checked : Checked α} {a : α} {f : α → Checked β} {step : Step β}
    (first : checked.Does (pure a) g) (next : (f a).Does step g) : (checked >>= f).Does step g := by
  refine first.bind (k := fun _ => step) fun b h same => ?_
  obtain ⟨rfl, rfl⟩ := Prod.mk.inj same
  exact next

theorem does_entry_map {l : List α} {i : Nat} {a : α} (found : l[i]? = some a) (f : α → β)
    (g : Game) :
    Does (do return f (← entry l i)) (pure (f a)) g :=
  (does_entry found g).value (does_pure (f a) g)

theorem Does.choosing {p : PlayerId} (prompt : Prompt) {l : List α} {f : Option α → Checked β}
    {k : Option Nat → Step β} (fits : prompt.size ≤ l.length)
    (declined : ∀ h, (f none).Does (k none) h)
    (chosen : ∀ i a h, l[i]? = some a → (f (some a)).Does (k (some i)) h) :
    (chooseEntry p prompt l >>= f).Does (Step.chooseOne p prompt >>= k) g := by
  rw [chooseEntry, bind_assoc]
  refine (does_step (Step.chooseOne p prompt) g).bind fun choice h ran => ?_
  have option := Step.chooseOne_selects p prompt g
  rw [ran] at option
  cases choice with
  | none => exact declined h
  | some i =>
    -- whatever was replied, the choice is below the number of options
    have found := List.getElem?_eq_getElem (Nat.lt_of_lt_of_le (option i rfl) fits)
    exact (does_entry_map found some h).value (chosen i _ h found)

theorem does_mapM_entry {l : List α} {places : List Nat} (inside : ∀ i ∈ places, i < l.length)
    (f : α → β) (g : Game) : (places.mapM fun i => return f (← entry l i)).Does
      (pure (places.filterMap fun i => (l[i]?).map f)) g := by
  induction places with
  | nil => exact does_pure [] g
  | cons i rest ih =>
    have found := List.getElem?_eq_getElem (inside i List.mem_cons_self)
    rw [List.mapM_cons, List.filterMap_cons, found]
    refine (does_entry_map found f g).value ?_
    exact (ih fun k mem => inside k (List.mem_cons_of_mem i mem)).value (does_pure _ g)

theorem does_pick (announce : Announce) (u : AbilityUse) (m : Match) (zones : Option ZoneMatch)
    (g : Game) :
    (pick announce u m zones).Does (Step.pick announce u m zones) g := by
  unfold pick Step.pick Step.pickTarget
  split
  · refine (does_step get g).bind fun known h _ => ?_
    generalize known.query u (some m) (some (zones.getD [.board])) none .candidates = options
    refine (does_step (Step.chooseMany u.controller (.target options 1) 1) h).bind
      fun chosen k ran => ?_
    have selection := Step.chooseMany_selects u.controller (.target options 1) 1 h
    rw [ran] at selection
    cases first : chosen.head? with
    | none => exact does_pure _ k
    | some i =>
      have found := List.getElem?_eq_getElem (selection.options i (List.mem_of_mem_head? first))
      rw [Option.bind_some, found]
      refine (does_entry found k).value ?_
      exact (does_step (announce .target _) k).bind fun _ k _ => does_pure _ k
  · exact (does_step get g).bind fun _ h _ => does_pure _ h

theorem lt_of_mem_usableAbilities {p : PlayerId} {c : CardId} {i : CardInstance}
    (known : g.card? c = some i)
    {k : Nat} (mem : k ∈ g.usableAbilities p c) : k < i.activatedAbilities.length := by
  rw [Game.usableAbilities, known] at mem
  dsimp only at mem
  split at mem
  · obtain ⟨⟨a, place⟩, kept, rfl⟩ := List.mem_map.1 mem
    exact (List.mem_zipIdx' (List.mem_filter.1 kept).1).1
  · exact absurd mem List.not_mem_nil

theorem does_outcome (act : Act Unit) (g : Game) :
    Does (do return some (← Act.outcome act)) (do return some (← Act.outcome act)) g :=
  (does_step (Act.outcome act) g).bind fun _ h _ => does_pure _ h

theorem does_actOnBoard {c : CardId} {i : CardInstance} (known : g.card? c = some i)
    (p : PlayerId) : (actOnBoard p c i).Does (Step.actOnBoard p c i) g := by
  refine (does_step get g).bind fun seen h same => ?_
  obtain ⟨rfl, rfl⟩ := Prod.mk.inj same
  refine (does_mapM_entry (fun k => lt_of_mem_usableAbilities known) (·.text i.card.name)
    g).value ?_
  have fits := List.length_filterMap_le
    (fun k => (i.activatedAbilities[k]?).map (·.text i.card.name))
    (g.usableAbilities p c)
  refine .choosing (.ability c _) fits (does_pure none) fun k index h found => ?_
  rw [Option.bind_some, found]
  exact does_outcome _ h

theorem does_castFromHand (p : PlayerId) (c : CardId) (i : CardInstance) (g : Game) :
    (castFromHand p c i).Does (Step.castFromHand p c i) g := by
  unfold castFromHand Step.castFromHand
  split
  · refine (does_step get g).bind fun seen h _ => ?_
    refine .choosing (.field _) (Nat.le_refl _) (does_pure none) fun k slot h found => ?_
    rw [Option.bind_some, found]
    exact does_outcome _ h
  · exact does_outcome _ g

theorem does_actFromHand (p : PlayerId) (c : CardId) (i : CardInstance) (g : Game) :
    (actFromHand p c i).Does (Step.actFromHand p c i) g := by
  refine (does_step (Step.chooseAsSource p c) g).bind fun source h _ => ?_
  match source with
  | none => exact does_pure none h
  | some true => exact does_outcome _ h
  | some false => exact does_castFromHand p c i h

theorem does_takeAction (p : PlayerId) (g : Game) : (takeAction p).Does (Step.takeAction p) g := by
  refine (does_step get g).bind fun seen h _ => ?_
  refine .choosing (.card _) (Nat.le_refl _) (does_pure false) fun k c h found => ?_
  rw [Option.bind_some, found]
  refine (does_step get h).bind fun seen k same => ?_
  obtain ⟨rfl, rfl⟩ := Prod.mk.inj same
  cases known : h.card? c with
  | none => exact does_pure false h
  | some i =>
    have answered : ∀ (result : Option (Except EngineError Unit)) (k : Game),
        Does (match result with | some (.ok ()) => return true | _ => return false)
          (match result with | some (.ok ()) => return true | _ => return false) k := by
      intro result k
      split <;> exact does_pure _ k
    dsimp only
    split
    · exact (does_actOnBoard known p).bind fun result k _ => answered result k
    · exact (does_actFromHand p c i h).bind fun result k _ => answered result k

end Checked

namespace CheckedAct

variable {g : Game}

theorem does_checked (act : Act α) (g : Game) : Does act.checked act g :=
  rfl

theorem does_step (step : Step α) (g : Game) : Does (liftM step) (liftM step) g :=
  rfl

theorem Does.bind {checked : CheckedAct α} {act : Act α} {f : α → CheckedAct β} {k : α → Act β}
    (first : checked.Does act g)
    (next : ∀ a h, StateT.run (ExceptT.run act) g = (.ok a, h) → (f a).Does (k a) h) :
    (checked >>= f).Does (act >>= k) g := by
  change Checked.Does (ExceptT.run checked >>= ExceptT.bindCont f)
    (ExceptT.run act >>= ExceptT.bindCont k) g
  refine Checked.Does.bind first fun result h ran => ?_
  cases result with
  | ok a => exact next a h ran
  | error e => exact Checked.does_pure (Except.error e) h

theorem does_lift_bind {α' : Type} {checked : Checked α} {step : Step α'} {f : α → CheckedAct β}
    {k : α' → Act β}
    (does : Checked.Does (do ExceptT.run (f (← checked))) (do ExceptT.run (k (← step))) g) :
    Does (liftM checked >>= f) (liftM step >>= k) g := by
  rw [Does, show ExceptT.run (liftM checked >>= f) = _ from ExceptT.run_bind_lift checked f,
    show ExceptT.run (liftM step >>= k) = _ from ExceptT.run_bind_lift step k]
  exact does

theorem Does.value {checked : Checked α} {a : α} {f : α → CheckedAct β} {act : Act β}
    (first : checked.Does (pure a) g) (next : (f a).Does act g) :
    Does (liftM checked >>= f) act g := by
  rw [Does, show ExceptT.run (liftM checked >>= f) = _ from ExceptT.run_bind_lift checked f]
  exact first.value next

theorem Does.forM {f : α → CheckedAct Unit} {k : α → Act Unit} {l : List α}
    (each : ∀ a ∈ l, ∀ h, (f a).Does (k a) h) (g : Game) : Does (l.forM f) (l.forM k) g := by
  induction l generalizing g with
  | nil => rfl
  | cons a rest ih =>
    refine (each a List.mem_cons_self g).bind fun _ h _ => ?_
    exact ih (fun b mem => each b (List.mem_cons_of_mem a mem)) h

theorem does_sacrifice (u : AbilityUse) (p : PlayerId) (m : CardMatch) (cards : List CardId)
    (g : Game) :
    (sacrifice u p m cards).Does (Act.sacrifice u p m cards) g := by
  refine (does_checked (Act.ownedOnBoard p cards) g).bind fun owned h _ => ?_
  split
  · refine does_lift_bind (.choosing (.card _) (Nat.le_refl _) (fun _ => rfl) fun k c h found => ?_)
    rw [Option.bind_some, found]
    exact does_checked _ h
  · exact does_checked _ h

theorem does_discardFrom (p : PlayerId) (options : List CardId) (n : Nat) (g : Game) :
    (discardFrom p options n).Does (do
      let chosen ← Step.chooseMany p (.discard options n) n
      (Act.fillUp chosen options.length n).forM fun i =>
        match options[i]? with
        | none => return
        | some c => do
          Act.moveCard c .pile .top
          Step.emit .discard (.card c)) g := by
  refine (does_step (Step.chooseMany p (.discard options n) n) g).bind fun chosen h ran => ?_
  have selection := Step.chooseMany_selects p (.discard options n) n g
  rw [Act.run_of_lift ran] at selection
  refine .forM (fun i mem k => ?_) h
  have found := List.getElem?_eq_getElem (Act.lt_of_mem_fillUp selection mem)
  rw [found]
  refine .value (Checked.does_entry found k) ?_
  exact (does_checked _ k).bind fun _ k _ => does_step _ k

theorem does_discard (p : PlayerId) (count : Amount) (eligible : Option (List CardId)) (g : Game) :
    (discard p count eligible).Does (Act.discard p count eligible) g :=
  Does.bind (does_step get g) fun known h _ =>
    does_discardFrom p (Act.discardable known p eligible) _ h

end CheckedAct

/-- Whatever a player replies, what is chosen is among the options, the prompt is put no more often
than there are tries, and not at all without options. So no operation that looks a choice up comes
to a fault. -/
theorem Game.choices_harmless (g : Game) (p : PlayerId) :
    (∀ prompt, (∀ i ∈ (StateT.run (Step.chooseOne p prompt) g).1, i < prompt.size) ∧
      QuestionedWithin p prompt (g.triesFor prompt) g (Step.leave (Step.chooseOne p prompt) g)) ∧
    (∀ prompt count, Selection prompt count (StateT.run (Step.chooseMany p prompt count) g).1 ∧
      QuestionedWithin p prompt (g.triesFor prompt) g
        (Step.leave (Step.chooseMany p prompt count) g)) ∧
    (Checked.takeAction p).Does (Step.takeAction p) g ∧
    (∀ announce u m zones, (Checked.pick announce u m zones).Does
      (Step.pick announce u m zones) g) ∧
    (∀ u m cards, (CheckedAct.sacrifice u p m cards).Does (Act.sacrifice u p m cards) g) ∧
    ∀ count eligible, (CheckedAct.discard p count eligible).Does (Act.discard p count eligible) g :=
  ⟨fun prompt => ⟨Step.chooseOne_selects p prompt g,
    Step.ends_chooseOne_questioned p prompt g g rfl⟩,
      fun prompt count => ⟨Step.chooseMany_selects p prompt count g,
        Step.ends_chooseMany_questioned p prompt count g g rfl⟩,
    Checked.does_takeAction p g, fun announce u m zones => Checked.does_pick announce u m zones g,
    fun u m cards => CheckedAct.does_sacrifice u p m cards g,
    fun count eligible => CheckedAct.does_discard p count eligible g⟩

end CardGame
