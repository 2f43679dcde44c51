import CardGame.Proofs.Searching

/-!
Choosing the targets of a use. A use lists its effects one by one, with the number of the clause
that each comes from; the choice walks along that list and marks what has been chosen. Read clause
by clause it is simpler: a targeted subject is chosen once for all effects of its clause, and then
the objects of each effect that asks for a target once. What a clause asks for is read off its text,
so a use of which no clause has a target is not touched.
-/

namespace CardGame

/-- The objects among which a target is chosen. Cards are looked for on the boards unless zones are
given. -/
def Game.candidates (g : Game) (u : AbilityUse) (m : Match) (zones : Option ZoneMatch) :
    List ObjectRef :=
  g.query u (some m) (some (zones.getD [.board])) none .candidates

/-- One choice of a target in a game: its controller was asked and chose nothing, or an object that
could be meant, which is listed in the use and announced once. Of both the game is what is left. -/
inductive Picks (announce : Announce) (m : Match) (zones : Option ZoneMatch) (u : AbilityUse)
    (g : Game) :
    List ObjectRef → AbilityUse → Game → Prop
  | declined {h : Game}
      (asked : StateT.run (Step.chooseMany u.controller (.target (g.candidates u m zones) 1) 1) g =
        ([], h))
      (talks : Talks u.controller g h) : Picks announce m zones u g [] u h
  | chosen {h : Game} {i : Nat} {o : ObjectRef}
      (asked : StateT.run (Step.chooseMany u.controller (.target (g.candidates u m zones) 1) 1) g =
        ([i], h))
      (talks : Talks u.controller g h) (option : (g.candidates u m zones)[i]? = some o)
      (meant : g.holds u .candidates m o)
      (searched : ∀ c, o = .card c → c ∈ g.searchedCards (some (zones.getD [.board]))) :
      Picks announce m zones u g [o] { u with targeting := u.targeting ++ [o] }
        (StateT.run (announce .target o) h).2

inductive PicksObject (announce : Announce) (e : PlannedEffect) (u : AbilityUse) (g : Game) :
    PlannedEffect → AbilityUse → Game → Prop
  | untargeted (none : e.effect.hasTarget = false) : PicksObject announce e u g e u g
  | targeted {m : Match} {objects : List ObjectRef} {v : AbilityUse} {h : Game}
      (target : e.effect.hasTarget) (pending : e.pending = some m)
      (pick : Picks announce m e.zone u g objects v h) :
      PicksObject announce e u g { e with objects := objects, picked := true } v h

inductive PicksObjects (announce : Announce) : List PlannedEffect → AbilityUse → Game →
    List PlannedEffect → AbilityUse → Game → Prop
  | done {u : AbilityUse} {g : Game} : PicksObjects announce [] u g [] u g
  | next {e d : PlannedEffect} {es ds : List PlannedEffect} {u v w : AbilityUse} {g h k : Game}
      (first : PicksObject announce e u g d v h) (rest : PicksObjects announce es v h ds w k) :
      PicksObjects announce (e :: es) u g (d :: ds) w k

def Effect.subjectTarget? : Effect → Option CardMatch
  | .player _ _ _ => none
  | .card subject _ => subject.filter CardMatch.hasTarget

def PlannedEffect.withSubjects (e : PlannedEffect) (subjects : List ObjectRef) : PlannedEffect :=
  { e with subjects := subjects, subjectsPicked := true }

/-- The targets of a clause: its subject, chosen once for all its effects, and then the objects of
each of them. A clause without effects has nothing that the subject could be chosen for. -/
inductive PicksClause (announce : Announce) (group : Nat) (clause : Effect) (u : AbilityUse)
    (g : Game) : List PlannedEffect → AbilityUse → Game → Prop
  | untargeted {ds : List PlannedEffect} {v : AbilityUse} {h : Game}
      (none : clause.subjectTarget? = none)
      (objects : PicksObjects announce (PlannedEffect.ofClause group clause) u g ds v h) :
      PicksClause announce group clause u g ds v h
  | subject {m : CardMatch} {subjects : List ObjectRef} {ds : List PlannedEffect} {v w : AbilityUse}
      {h k : Game} (target : clause.subjectTarget? = some m)
      (effects : PlannedEffect.ofClause group clause ≠ [])
      (pick : Picks announce (.card m) none u g subjects v h)
      (objects : PicksObjects announce
        ((PlannedEffect.ofClause group clause).map (·.withSubjects subjects)) v h ds w k) :
      PicksClause announce group clause u g ds w k
  | empty (effects : PlannedEffect.ofClause group clause = []) :
      PicksClause announce group clause u g [] u g

inductive PicksClauses (announce : Announce) : Nat → List Effect → AbilityUse → Game →
    List PlannedEffect → AbilityUse → Game → Prop
  | done {group : Nat} {u : AbilityUse} {g : Game} : PicksClauses announce group [] u g [] u g
  | next {group : Nat} {clause : Effect} {clauses : List Effect} {ds es : List PlannedEffect}
      {u v w : AbilityUse} {g h k : Game} (first : PicksClause announce group clause u g ds v h)
      (rest : PicksClauses announce (group + 1) clauses v h es w k) :
      PicksClauses announce group (clause :: clauses) u g (ds ++ es) w k

def PlannedEffect.ofClauses : Nat → List Effect → List PlannedEffect
  | _, [] => []
  | group, clause :: clauses => ofClause group clause ++ ofClauses (group + 1) clauses

theorem AbilityUse.effects_prepareClauses (u : AbilityUse) (clauses : List Effect) :
    (u.prepareClauses clauses).effects = u.effects ++
      PlannedEffect.ofClauses u.nextGroup clauses := by
  induction clauses generalizing u with
  | nil => exact (List.append_nil _).symm
  | cons clause clauses ih =>
    change ((u.prepareClause clause).prepareClauses clauses).effects = _
    rw [ih]
    exact List.append_assoc _ _ _

def PlannedEffect.Settled (e : PlannedEffect) : Prop :=
  e.subjectToPick? = none ∧ e.objectsToPick? = none

/-- No objects were chosen for an effect yet, and if it asks for a target, it has a match for it. -/
structure PlannedEffect.Open (e : PlannedEffect) : Prop where
  unpicked : e.picked = false
  pending : e.effect.hasTarget → ∃ m, e.pending = some m ∧ m.hasTarget

theorem SingleEffect.pending_of_hasTarget {e : SingleEffect} (target : e.hasTarget) :
    ∃ m, e.pendingMatch? = some m ∧ m.hasTarget := by
  cases e with
  | player e =>
    cases e with
    | shuffle objects zone => exact nomatch target
    | _ => exact (Option.any_eq_true _ _).1 target
  | card e =>
    cases e with
    | damage amount m => exact ⟨.any m, rfl, target⟩
    | _ => exact nomatch target

namespace PlannedEffect

variable {group : Nat} {clause : Effect} {e : PlannedEffect}

theorem open_of_mem_ofClause (mem : e ∈ ofClause group clause) : e.Open := by
  cases clause <;>
  · obtain ⟨effect, -, rfl⟩ := List.mem_map.1 mem
    exact ⟨rfl, SingleEffect.pending_of_hasTarget⟩

theorem group_of_mem_ofClause (mem : e ∈ ofClause group clause) : e.group = group := by
  cases clause <;>
  · obtain ⟨effect, -, rfl⟩ := List.mem_map.1 mem
    rfl

theorem subjectToPick?_of_mem_ofClause (mem : e ∈ ofClause group clause) :
    e.subjectToPick? = clause.subjectTarget?.map .card := by
  cases clause with
  | player subject optional effects =>
    obtain ⟨effect, -, rfl⟩ := List.mem_map.1 mem
    cases subject <;> rfl
  | card subject effects =>
    obtain ⟨effect, -, rfl⟩ := List.mem_map.1 mem
    cases subject with
    | none => rfl
    | some m =>
      change (if m.hasTarget then some (Match.card m) else none) =
        (if m.hasTarget then some m else none).map Match.card
      split <;> rfl

end PlannedEffect

theorem Effect.hasTarget_of_subjectTarget? {clause : Effect} {m : CardMatch}
    (target : clause.subjectTarget? = some m) : m.hasTarget := by
  cases clause with
  | player => exact nomatch target
  | card subject effects => exact (Option.filter_eq_some_iff.1 target).2

theorem PicksObject.keeps {announce : Announce} {e d : PlannedEffect} {u v : AbilityUse}
    {g h : Game} (picks : PicksObject announce e u g d v h) :
    d = { e with objects := d.objects, picked := d.picked } ∧ d.objectsToPick? = none := by
  cases picks with
  | untargeted none => exact ⟨rfl, by simp [PlannedEffect.objectsToPick?, none]⟩
  | targeted => exact ⟨rfl, rfl⟩

theorem PicksObject.of_withSubjects {announce : Announce} {e d : PlannedEffect}
    {subjects : List ObjectRef} {u v : AbilityUse} {g h : Game}
    (picks : PicksObject announce (e.withSubjects subjects) u g d v h) :
    d.group = e.group ∧ d.subjectsPicked ∧ d.subjects = subjects := by
  cases picks <;> exact ⟨rfl, rfl, rfl⟩

theorem PicksObjects.keeps {announce : Announce} {es ds : List PlannedEffect} {u v : AbilityUse}
    {g h : Game} (picks : PicksObjects announce es u g ds v h) {d : PlannedEffect} (mem : d ∈ ds) :
    ∃ e ∈ es, d = { e with objects := d.objects, picked := d.picked } ∧
      d.objectsToPick? = none := by
  induction picks with
  | done => exact nomatch mem
  | next first _ ih =>
    rcases List.mem_cons.1 mem with rfl | later
    · exact ⟨_, .head _, first.keeps⟩
    · obtain ⟨e, listed, kept⟩ := ih later
      exact ⟨e, .tail _ listed, kept⟩

/-- What was chosen for a clause is marked with its number, and is not asked for again. -/
theorem PicksClause.settled {announce : Announce} {group : Nat} {clause : Effect}
    {ds : List PlannedEffect}
    {u v : AbilityUse} {g h : Game} (picks : PicksClause announce group clause u g ds v h)
    {d : PlannedEffect} (mem : d ∈ ds) : d.group = group ∧ d.Settled := by
  cases picks with
  | untargeted none objects =>
    obtain ⟨e, listed, same, settled⟩ := objects.keeps mem
    have asked := PlannedEffect.subjectToPick?_of_mem_ofClause listed
    rw [none] at asked
    refine ⟨?_, ?_, settled⟩
    · rw [same]
      change e.group = group
      exact PlannedEffect.group_of_mem_ofClause listed
    · rw [same]
      exact asked
  | subject target effects pick objects =>
    obtain ⟨e, listed, same, settled⟩ := objects.keeps mem
    obtain ⟨planned, unfolded, rfl⟩ := List.mem_map.1 listed
    refine ⟨?_, ?_, settled⟩
    · rw [same]
      change planned.group = group
      exact PlannedEffect.group_of_mem_ofClause unfolded
    · rw [same]
      rfl
  | empty => exact nomatch mem

theorem PicksClauses.settled {announce : Announce} {group : Nat} {clauses : List Effect}
    {ds : List PlannedEffect} {u v : AbilityUse} {g h : Game}
    (picks : PicksClauses announce group clauses u g ds v h) : ∀ d ∈ ds, d.Settled := by
  induction picks with
  | done => exact fun _ mem => nomatch mem
  | next first _ ih => exact List.forall_mem_append.2 ⟨fun d mem => (first.settled mem).2, ih⟩

namespace Step

variable {announce : Announce}

theorem ends_chooseMany (p : PlayerId) (prompt : Prompt) (count : Nat) (g : Game) :
    Ends (fun k => k = g) (chooseMany p prompt count) fun chosen h =>
      StateT.run (chooseMany p prompt count) g = (chosen, h) ∧ Selection prompt count chosen ∧
        Talks p g h := by
  rintro g rfl
  exact ⟨rfl, chooseMany_selects p prompt count g,
    keeps_chooseMany_of_asking (Talks.kept p g) prompt count g (.refl p g)⟩

theorem pickTarget_picks (u : AbilityUse) (m : Match) (zones : Option ZoneMatch) (g : Game) :
    Ends (fun k => k = g) (pickTarget announce u m zones) fun r h =>
      Picks announce m zones u g r.1 r.2 h := by
  refine ends_readGiven.bind fun known => .given fun same => ?_
  subst same
  refine (ends_chooseMany u.controller (.target (known.candidates u m zones) 1) 1 known).bind
    fun chosen => ?_
  split
  · next none =>
    rintro h ⟨asked, selection, talks⟩
    cases chosen with
    | nil => exact .declined asked talks
    | cons i rest =>
      have inRange : i < (known.candidates u m zones).length := selection.options i (.head _)
      exact nomatch none.symm.trans (List.getElem?_eq_getElem inRange)
  · next o picked =>
    obtain ⟨i, head, option⟩ := Option.bind_eq_some_iff.1 picked
    rintro h ⟨asked, selection, talks⟩
    have single : chosen = [i] := by
      match chosen, head, selection.atMost with
      | [j], head, _ => rw [Option.some.inj head]
    rw [single] at asked
    have found := (known.mem_objectsOf u m (some (zones.getD [.board])) .candidates).1
      (List.mem_of_getElem? option)
    refine .chosen asked talks option found.1 fun c card => ?_
    rcases found.2 with ⟨p, -, player⟩ | searched
    · exact nomatch player.trans card
    · obtain ⟨-, d, searched, same⟩ := (known.mem_searchedFor m _).1 searched
      exact ObjectRef.card.inj (same.trans card) ▸ searched

theorem pick_picks {m : Match} (target : m.hasTarget) (u : AbilityUse) (zones : Option ZoneMatch)
    (g : Game) :
    Ends (fun k => k = g) (pick announce u m zones) fun r h =>
      Picks announce m zones u g r.1 r.2 h := by
  rw [pick, if_pos target]
  exact pickTarget_picks u m zones g

theorem pickObjects_picks {e : PlannedEffect} (opened : e.Open) (u : AbilityUse) (g : Game) :
    Ends (fun k => k = g) (pickObjects announce u e) fun r h =>
      PicksObject announce e u g r.1 r.2 h := by
  unfold pickObjects
  by_cases target : e.effect.hasTarget
  · obtain ⟨m, pending, asks⟩ := opened.pending target
    have asked : e.objectsToPick? = some m := by
      simp [PlannedEffect.objectsToPick?, opened.unpicked, pending, asks, target]
    rw [asked]
    exact (pick_picks asks u e.zone g).bind fun r => ends_pure fun h pick =>
      .targeted target pending pick
  · have none : e.objectsToPick? = none := by
      simp [PlannedEffect.objectsToPick?, target]
    rw [none]
    exact ends_pure fun h same => same ▸ .untargeted (by simpa using target)

theorem pickSubjects_of_none {e : PlannedEffect} (none : e.subjectToPick? = none) (u : AbilityUse)
    (earlier : List PlannedEffect) : pickSubjects announce u earlier e = pure (e, u) := by
  rw [pickSubjects, none]

section Subject

variable {e d : PlannedEffect} {m : Match} {earlier : List PlannedEffect}

theorem find?_picked_of_fresh (fresh : ∀ d ∈ earlier, d.group ≠ e.group) :
    (earlier.find? fun d => d.group == e.group && d.subjectsPicked) = none :=
  List.find?_eq_none.2 fun d mem => by simp [fresh d mem]

theorem pickSubjects_of_first (target : e.subjectToPick? = some m)
    (fresh : ∀ d ∈ earlier, d.group ≠ e.group) (u : AbilityUse) :
    pickSubjects announce u earlier e = do
      let r ← pick announce u m none
      return (e.withSubjects r.1, r.2) := by
  rw [pickSubjects, target]
  dsimp only
  rw [find?_picked_of_fresh fresh]
  rfl

theorem pickSubjects_of_later (target : e.subjectToPick? = some m)
    (fresh : ∀ d ∈ earlier, d.group ≠ e.group) (same : d.group = e.group)
    (picked : d.subjectsPicked) (more : List PlannedEffect) (u : AbilityUse) :
    pickSubjects announce u (earlier ++ [d] ++ more) e = pure (e.withSubjects d.subjects, u) := by
  have shared : ((earlier ++ [d] ++ more).find? fun d => d.group == e.group && d.subjectsPicked) =
      some d := by
    rw [List.append_assoc, List.find?_append, find?_picked_of_fresh fresh]
    simp [same, picked]
  rw [pickSubjects, target]
  dsimp only
  rw [shared]
  rfl

end Subject

theorem pickEffects_shared (share : PlannedEffect → PlannedEffect)
    {es rest earlier : List PlannedEffect} {R : AbilityUse → Game → Prop}
    (subjects : ∀ e ∈ es, ∀ more v, pickSubjects announce v (earlier ++ more) e = pure (share e, v))
    (opened : ∀ e ∈ es, (share e).Open) {u : AbilityUse} {g : Game}
    (next : ∀ ds v h, PicksObjects announce (es.map share) u g ds v h →
      Ends (fun k => k = h) (pickEffects announce v (earlier ++ ds) rest) R) :
    Ends (fun k => k = g) (pickEffects announce u earlier (es ++ rest)) R := by
  induction es generalizing earlier u g with
  | nil =>
    have here := next [] u g .done
    rwa [List.append_nil] at here
  | cons e es ih =>
    have first := subjects e (.head _) [] u
    rw [List.append_nil] at first
    rw [List.cons_append, pickEffects, first, pure_bind]
    refine (pickObjects_picks (opened e (.head _)) u g).bind fun chosen h picks => ?_
    obtain ⟨d, v⟩ := chosen
    have later : ∀ e' ∈ es, ∀ more w,
        pickSubjects announce w (earlier ++ [d] ++ more) e' = pure (share e', w) := by
      intro e' mem more w
      rw [List.append_assoc]
      exact subjects e' (.tail _ mem) _ w
    refine ih later (fun e' mem => opened e' (.tail _ mem)) (fun ds w k rest => ?_) h rfl
    rw [List.append_assoc]
    exact next (d :: ds) w k (.next picks rest)

theorem pickEffects_clause {group : Nat} {clause : Effect} {rest earlier : List PlannedEffect}
    {R : AbilityUse → Game → Prop} (fresh : ∀ d ∈ earlier, d.group ≠ group) {u : AbilityUse}
    {g : Game}
    (next : ∀ ds v h, PicksClause announce group clause u g ds v h →
      Ends (fun k => k = h) (pickEffects announce v (earlier ++ ds) rest) R) :
    Ends (fun k => k = g) (pickEffects announce u earlier
      (PlannedEffect.ofClause group clause ++ rest)) R := by
  have asked : ∀ e ∈ PlannedEffect.ofClause group clause,
      e.subjectToPick? = clause.subjectTarget?.map .card := fun _ =>
    PlannedEffect.subjectToPick?_of_mem_ofClause
  have opened : ∀ e ∈ PlannedEffect.ofClause group clause, e.Open := fun _ =>
    PlannedEffect.open_of_mem_ofClause
  have numbered : ∀ e ∈ PlannedEffect.ofClause group clause, e.group = group := fun _ =>
    PlannedEffect.group_of_mem_ofClause
  cases target : clause.subjectTarget? with
  | none =>
    rw [target] at asked
    refine pickEffects_shared id (fun e mem more v => pickSubjects_of_none (asked e mem) v _)
      opened fun ds v h objects => next ds v h (.untargeted target ?_)
    rwa [List.map_id] at objects
  | some m =>
    rw [target] at asked
    cases effects : PlannedEffect.ofClause group clause with
    | nil =>
      have here := next [] u g (.empty effects)
      rwa [List.append_nil] at here
    | cons e es =>
      rw [effects] at asked opened numbered
      have unasked : ∀ e' ∈ e :: es, ∀ d ∈ earlier, d.group ≠ e'.group := fun e' mem d before =>
        numbered e' mem ▸ fresh d before
      have asks : (Match.card m).hasTarget := Effect.hasTarget_of_subjectTarget? target
      rw [List.cons_append, pickEffects, pickSubjects_of_first (asked e (.head _))
        (unasked e (.head _)), bind_assoc]
      refine (pick_picks asks u none g).bind fun chosen h pick => ?_
      obtain ⟨subjects, v⟩ := chosen
      rw [pure_bind]
      have shareOpen : ∀ e' ∈ e :: es, (e'.withSubjects subjects).Open := fun e' mem =>
        ⟨(opened e' mem).unpicked, (opened e' mem).pending⟩
      suffices objects : Ends (fun k => k = h) _ R from objects h rfl
      refine (pickObjects_picks (shareOpen e (.head _)) v h).bind fun chosen k picks => ?_
      obtain ⟨d, w⟩ := chosen
      have shared : d.group = e.group ∧ d.subjectsPicked ∧ d.subjects = subjects :=
        picks.of_withSubjects
      obtain ⟨group_eq, picked, subjects_eq⟩ := shared
      have later : ∀ e' ∈ es, ∀ more x,
          pickSubjects announce x (earlier ++ [d] ++ more) e' =
            pure (e'.withSubjects subjects, x) := by
        intro e' mem more x
        have same : d.group = e'.group :=
          group_eq.trans ((numbered e (.head _)).trans (numbered e' (.tail _ mem)).symm)
        rw [← subjects_eq]
        exact pickSubjects_of_later (asked e' (.tail _ mem)) (unasked e' (.tail _ mem)) same
          picked more x
      refine pickEffects_shared (·.withSubjects subjects) later
        (fun e' mem => shareOpen e' (.tail _ mem))
        (fun ds x l objects => ?_) k rfl
      rw [List.append_assoc]
      refine next (d :: ds) x l (.subject target (by simp [effects]) pick ?_)
      rw [effects]
      exact .next picks objects

theorem pickEffects_clauses {group : Nat} {clauses : List Effect} {earlier : List PlannedEffect}
    (fresh : ∀ d ∈ earlier, d.group < group) (u : AbilityUse) (g : Game) :
    Ends (fun k => k = g) (pickEffects announce u earlier (PlannedEffect.ofClauses group clauses))
      fun w h => ∃ ds v, PicksClauses announce group clauses u g ds v h ∧
        w = { v with effects := earlier ++ ds } := by
  induction clauses generalizing group earlier u g with
  | nil => exact ends_pure fun h same => same ▸ ⟨[], u, .done, by rw [List.append_nil]⟩
  | cons clause clauses ih =>
    refine pickEffects_clause (fun d mem => Nat.ne_of_lt (fresh d mem)) fun ds v h first => ?_
    have later : ∀ d ∈ earlier ++ ds, d.group < group + 1 := by
      refine List.forall_mem_append.2 ⟨fun d mem => Nat.lt_succ_of_lt (fresh d mem),
        fun d mem => ?_⟩
      rw [(first.settled mem).1]
      exact Nat.lt_succ_self group
    refine (ih later v h).weaken (fun _ same => same) fun w k ⟨es, x, rest, same⟩ => ?_
    exact ⟨ds ++ es, x, .next first rest, by rw [same, List.append_assoc]⟩

theorem run_pickEffects_settled {es : List PlannedEffect} (settled : ∀ e ∈ es, e.Settled)
    (u : AbilityUse) (earlier : List PlannedEffect) (g : Game) :
    StateT.run (pickEffects announce u earlier es) g =
      ({ u with effects := earlier ++ es }, g) := by
  induction es generalizing earlier with
  | nil =>
    rw [List.append_nil]
    rfl
  | cons e es ih =>
    obtain ⟨subjects, objects⟩ := settled e (.head _)
    have unasked : pickObjects announce u e = pure (e, u) := by rw [pickObjects, objects]
    rw [pickEffects, pickSubjects_of_none subjects, pure_bind]
    dsimp only
    rw [unasked, pure_bind]
    dsimp only
    rw [ih (fun d mem => settled d (.tail _ mem)), List.append_assoc]
    rfl

theorem run_pickUse_settled {u : AbilityUse} (settled : ∀ e ∈ u.effects, e.Settled) (g : Game) :
    StateT.run (pickUse announce u) g = (u, g) :=
  run_pickEffects_settled settled u [] g

end Step

theorem Effect.untargeted {clause : Effect} (none : clause.hasTarget = false) (group : Nat) :
    clause.subjectTarget? = .none ∧ ∀ e ∈ PlannedEffect.ofClause group clause,
      e.effect.hasTarget = false := by
  cases clause with
  | player subject optional effects =>
    refine ⟨rfl, fun e mem => ?_⟩
    obtain ⟨effect, listed, rfl⟩ := List.mem_map.1 mem
    exact Bool.eq_false_iff.2 (List.any_eq_false.1 none effect listed)
  | card subject effects =>
    obtain ⟨unnamed, effectless⟩ := Bool.or_eq_false_iff.1 none
    refine ⟨?_, fun e mem => ?_⟩
    · cases subject with
      | none => rfl
      | some m => exact if_neg (by simpa using unnamed)
    · obtain ⟨effect, listed, rfl⟩ := List.mem_map.1 mem
      exact Bool.eq_false_iff.2 (List.any_eq_false.1 effectless effect listed)

theorem PlannedEffect.settled_of_untargeted {group : Nat} {clauses : List Effect}
    (untargeted : ∀ clause ∈ clauses, clause.hasTarget = false) :
    ∀ e ∈ ofClauses group clauses, e.Settled := by
  induction clauses generalizing group with
  | nil => exact fun _ mem => nomatch mem
  | cons clause clauses ih =>
    refine List.forall_mem_append.2 ⟨fun e mem => ?_,
      ih fun later mem => untargeted later (.tail _ mem)⟩
    obtain ⟨unnamed, effectless⟩ := Effect.untargeted (untargeted clause (.head _)) group
    refine ⟨?_, by simp [objectsToPick?, effectless e mem]⟩
    rw [subjectToPick?_of_mem_ofClause mem, unnamed]
    rfl

theorem Step.run_pickUse_untargeted (announce : Announce) {c : Composed}
    (untargeted : c.hasTarget = false) {u : AbilityUse} (none : u.effects = []) (g : Game) :
    StateT.run (pickUse announce (u.prepare c)) g = (u.prepare c, g) := by
  refine run_pickUse_settled ?_ g
  rw [AbilityUse.prepare, AbilityUse.effects_prepareClauses, none, List.nil_append]
  exact PlannedEffect.settled_of_untargeted fun clause mem =>
    Bool.eq_false_iff.2 (List.any_eq_false.1 untargeted clause mem)

structure TargetsFollow (announce : Announce) (c : Composed) (u : AbilityUse) (g : Game) :
    Prop where
  /-- Without a target in the clauses nobody is asked, and neither the use nor the game changes. -/
  untargeted : c.hasTarget = false → StateT.run (Step.pickUse announce (u.prepare c)) g =
    (u.prepare c, g)
  chosen : ∃ effects v, PicksClauses announce u.nextGroup c.effects (u.prepare c) g effects v
      (StateT.run (Step.pickUse announce (u.prepare c)) g).2 ∧
    (StateT.run (Step.pickUse announce (u.prepare c)) g).1 = { v with effects := effects }
  /-- What was declined is not asked for again, nor what was chosen. -/
  once : ∀ h, StateT.run (Step.pickUse announce
    (StateT.run (Step.pickUse announce (u.prepare c)) g).1) h =
    ((StateT.run (Step.pickUse announce (u.prepare c)) g).1, h)

/-- Whoever chooses, the targets of a use are those that its clauses ask for, and no others. -/
theorem AbilityUse.targetsFollow (announce : Announce) (c : Composed) {u : AbilityUse}
    (none : u.effects = []) (g : Game) : TargetsFollow announce c u g := by
  have unfolded : (u.prepare c).effects = PlannedEffect.ofClauses u.nextGroup c.effects := by
    rw [prepare, effects_prepareClauses, none, List.nil_append]
  have first : ∀ d ∈ ([] : List PlannedEffect), d.group < u.nextGroup := fun _ mem => nomatch mem
  have walked : Step.Ends (fun k => k = g) (Step.pickEffects announce (u.prepare c) []
      (PlannedEffect.ofClauses u.nextGroup c.effects)) fun w h =>
        ∃ effects v, PicksClauses announce u.nextGroup c.effects (u.prepare c) g effects v h ∧
          w = { v with effects := effects } :=
    Step.pickEffects_clauses first (u.prepare c) g
  obtain ⟨effects, v, picks, same⟩ := walked g rfl
  rw [← unfolded] at picks same
  refine ⟨fun untargeted => Step.run_pickUse_untargeted announce untargeted none g,
    ⟨effects, v, picks, same⟩, fun h => Step.run_pickUse_settled ?_ h⟩
  change ∀ e ∈ (StateT.run (Step.pickEffects announce (u.prepare c) [] (u.prepare c).effects)
    g).1.effects, _
  rw [same]
  exact picks.settled

theorem targetsFollow_duel :
    ∃ start, Game.create {} [⟨[(Card.blank "Squire").withKind ⟨.unit, false⟩], .first⟩,
      ⟨[], .pass⟩] =
        .ok start ∧
      let g := Operation.performAll start [.draw ⟨0⟩ 1, .enterPhase .play, .cast ⟨0⟩ ⟨0⟩ none,
        .resolveTop]
      let unit : CardMatch := [.filter ⟨some .target, [.kind ⟨.unit, false⟩], none, none, []⟩]
      let c : Composed := ⟨[.card (some unit) [.gets .plus (.number 1) .plus (.number 1),
        .damage (.number 1) (.card unit)]]⟩
      let u := AbilityUse.fresh ⟨0⟩ .activated ⟨0⟩ ⟨0⟩
      c.hasTarget ∧ TargetsFollow Step.emit c u g ∧
        (StateT.run (Step.pickUse Step.emit (u.prepare c)) g).1.targeting = [.card ⟨0⟩, .card ⟨0⟩] ∧
        (StateT.run (Step.pickUse Step.emit (u.prepare c)) g).1.effects.map
          (fun e => (e.subjects, e.objects)) =
          [([.card ⟨0⟩], []), ([.card ⟨0⟩], [.card ⟨0⟩])] := by
  refine ⟨_, rfl, by decide, ?_, by decide +kernel, by decide +kernel⟩
  exact AbilityUse.targetsFollow Step.emit _ rfl _

end CardGame
