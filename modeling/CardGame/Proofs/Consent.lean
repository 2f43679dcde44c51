import CardGame.Proofs.Targeting
import CardGame.Proofs.Effects

/-!
Clauses that players may decline. While a use resolves, its effects come to their subjects one after
the other, and each player who is a subject of an effect of an optional clause has a say in it. The
player is asked when the clause first comes to them, and the answer holds for whatever else the
clause has for them: the answers are kept under the number of the clause and the player, and the
trace of a resolution shows where each of them was given. Nothing else in a resolution asks whether
something applies, so that the chronicle holds exactly the questions of the trace.
-/

namespace CardGame

def Prompt.may : Prompt :=
  .mode ["accept", "decline"]

def Entry.replyTo? (prompt : Prompt) : Entry → Option (PlayerId × Reply)
  | .asked p put reply => if put = prompt then some (p, reply) else none
  | _ => none

theorem Entry.replyTo?_of_ne {prompt put : Prompt} (differs : put ≠ prompt) {p : PlayerId}
    {reply : Reply} : (Entry.asked p put reply).replyTo? prompt = none :=
  if_neg differs

def Game.repliesTo (prompt : Prompt) (g : Game) : List (PlayerId × Reply) :=
  g.reading (·.replyTo? prompt)

/-- A prompt was put to a player at most so many times: every reply but the last was an option that
there is not, and an option is chosen just when the last reply names it. -/
structure Put (p : PlayerId) (prompt : Prompt) (tries : Nat) (chosen : Option Nat)
    (replies : List Reply) (g h : Game) : Prop where
  talks : Talks p g h
  written : h.repliesTo prompt = g.repliesTo prompt ++ replies.map (p, ·)
  retried : ∀ r ∈ replies.dropLast, ∃ i, r = .pick i ∧ prompt.size ≤ i
  tries : replies.length ≤ tries
  chosen : ∀ i, chosen = some i ↔ i < prompt.size ∧ replies.getLast? = some (.pick i)

namespace Put

variable {p : PlayerId} {prompt : Prompt} {tries : Nat} {chosen : Option Nat} {replies : List Reply}
  {f g h : Game}

theorem unasked (p : PlayerId) (prompt : Prompt) (tries : Nat) (g : Game) :
    Put p prompt tries none [] g g :=
  ⟨.refl p g, by simp, by simp, Nat.zero_le _, by simp⟩

theorem decided {reply : Reply} (talks : Talks p g h)
    (written : h.repliesTo prompt = g.repliesTo prompt ++ [(p, reply)])
    (chosen_iff : ∀ i, chosen = some i ↔ i < prompt.size ∧ reply = .pick i) :
    Put p prompt (tries + 1) chosen [reply] g h :=
  ⟨talks, written, by simp, by simp, by simpa using chosen_iff⟩

theorem again {i : Nat} (outside : prompt.size ≤ i) (talks : Talks p f g)
    (written : g.repliesTo prompt = f.repliesTo prompt ++ [(p, .pick i)])
    (later : Put p prompt tries chosen replies g h) :
    Put p prompt (tries + 1) chosen (.pick i :: replies) f h where
  talks := talks.trans later.talks
  written := by rw [later.written, written, List.append_assoc]; rfl
  retried := by
    cases replies with
    | nil => simp
    | cons r rest => exact List.forall_mem_cons.2 ⟨⟨i, rfl, outside⟩, later.retried⟩
  tries := Nat.succ_le_succ later.tries
  chosen k := by
    rw [later.chosen]
    cases replies with
    | cons r rest => rfl
    | nil =>
      -- the tries are used up, and the reply was no option
      refine and_congr_right fun inside => ⟨nofun, fun last => ?_⟩
      obtain rfl : i = k := by simpa using last
      exact absurd inside (Nat.not_lt.2 outside)

end Put

namespace Step

variable {p : PlayerId} {prompt : Prompt}

theorem ends_ask_replies (g : Game) : Ends (fun h => h = g) (ask p prompt) fun reply h =>
    reply = .skip ∧ h = g ∨
      Talks p g h ∧ h.repliesTo prompt = g.repliesTo prompt ++ [(p, reply)] := by
  refine ends_readGiven.bind fun known => .given fun same => ?_
  subst same
  split
  · exact ends_pure fun h start => .inl ⟨rfl, start⟩
  · next chooser _ =>
    rintro h rfl
    refine .inr ⟨.asked p h _ rfl, ?_⟩
    refine (Game.reading_record (·.replyTo? prompt) _ _).trans (congrArg₂ _ rfl ?_)
    exact congrArg Option.toList (if_pos rfl)

theorem chooseOneWithin_puts (tries : Nat) (g : Game) :
    Ends (fun h => h = g) (chooseOneWithin p prompt tries)
    fun chosen h => ∃ replies, Put p prompt tries chosen replies g h := by
  induction tries generalizing g with
  | zero => exact ends_pure fun h same => ⟨[], same ▸ .unasked p prompt 0 h⟩
  | succ tries ih =>
    refine (ends_ask_replies g).bind fun reply => ?_
    split
    · next i =>
      split
      · next inside =>
        refine ends_pure fun h asked => ?_
        obtain ⟨skip, -⟩ | ⟨talks, written⟩ := asked
        · exact nomatch skip
        · refine ⟨_, .decided talks written fun k => ⟨?_, fun last => ?_⟩⟩
          · rintro ⟨⟩
            exact ⟨inside, rfl⟩
          · rw [Reply.pick.inj last.2]
      · next outside =>
        intro h asked
        obtain ⟨skip, -⟩ | ⟨talks, written⟩ := asked
        · exact nomatch skip
        · have noticed : Talks p h (h.record (.noticed (.answerOutOfRange p i prompt.size))) :=
            .noticed h rfl
          have silent : (h.record (.noticed (.answerOutOfRange p i prompt.size))).repliesTo prompt =
              h.repliesTo prompt := Game.reading_record_of_none rfl
          obtain ⟨replies, later⟩ := ih _ _ rfl
          exact ⟨_, .again (Nat.le_of_not_lt outside) (talks.trans noticed)
            (silent.trans written) later⟩
    · next unpicked =>
      refine ends_pure fun h asked => ?_
      obtain ⟨-, rfl⟩ | ⟨talks, written⟩ := asked
      · exact ⟨[], .unasked p prompt _ h⟩
      · exact ⟨_, .decided talks written fun i => ⟨nofun, fun last => absurd last.2 (unpicked i)⟩⟩

theorem chooseOne_puts (p : PlayerId) (prompt : Prompt) (g : Game) :
    Ends (fun h => h = g) (chooseOne p prompt)
    fun chosen h => ∃ replies, Put p prompt (g.config.maxPromptRetries.toNat + 1) chosen replies
      g h := by
  unfold chooseOne
  split
  · exact ends_pure fun h same => ⟨[], same ▸ .unasked p prompt _ h⟩
  · have tries : Ends (fun h => h = g) maxTries fun tries h =>
        tries = g.config.maxPromptRetries.toNat + 1 ∧ h = g := by
      rintro h rfl
      exact ⟨rfl, rfl⟩
    refine tries.bind fun tries => .given fun same => ?_
    subst same
    exact chooseOneWithin_puts _ g

end Step

theorem keptByPrompt_repliesTo {prompt other : Prompt} (differs : other ≠ prompt) (p : PlayerId)
    (told : List (PlayerId × Reply)) : KeptByPrompt p other fun g => g.repliesTo prompt = told :=
  .of_reading (fun _ => Entry.replyTo?_of_ne differs) (fun _ _ => rfl) told

theorem keptByFiring_repliesTo_may (told : List (PlayerId × Reply)) :
    KeptByFiring (fun _ => True) fun g => g.repliesTo .may = told :=
  .of_reading (fun _ _ _ _ => Entry.replyTo?_of_ne (by nofun)) (fun _ _ _ => rfl) (fun _ _ => rfl)
    (fun _ _ => rfl) (fun _ _ => rfl) told

theorem keptByApplying_repliesTo_may (told : List (PlayerId × Reply)) :
    KeptByApplying (fun _ _ => True) fun g => g.repliesTo .may = told := by
  refine .of_templates (fun p _ => ?_) (fun p _ count => ?_) (fun p cards => ?_)
    (fun kind subject => ?_)
    (fun _ _ _ same => same) (fun _ _ _ same => same) fun _ _ _ _ =>
      Step.keeps_modifyGet fun _ same => same
  · exact Step.keeps_chooseOne_of_prompt (keptByPrompt_repliesTo (by nofun) p told)
  · exact Step.keeps_chooseMany_of_prompt (keptByPrompt_repliesTo (by nofun) p told) count
  · refine Step.keeps_get.bind fun g => ?_
    split
    · exact Step.keeps_modify fun g same => (Game.reading_record_of_none rfl).trans same
    · exact Step.keeps_pure ()
  · refine (keptByFiring_repliesTo_may told).keeps_emit (fun g same => ?_) fun g same => ?_
    · exact (Game.reading_record_of_none rfl).trans same
    · exact (Game.reading_record_of_none rfl).trans same

/-- How it is settled whether an effect applies to a player: nobody was asked, the player was asked
and replied, or the player had answered before. -/
inductive Consent where
  | unasked
  | asked (replies : List Reply)
  | recalled (accepted : Bool)

namespace Consent

def accepted : Consent → Bool
  | unasked => true
  | asked replies => replies.getLast? == some (.pick 0)
  | recalled accepted => accepted

def Given (p : PlayerId) : Consent → Game → Game → Prop
  | asked replies, g, h =>
    ∃ chosen, StateT.run (Step.chooseOne p .may) g = (chosen, h) ∧
      Put p .may (g.config.maxPromptRetries.toNat + 1) chosen replies g h
  | _, g, h => h = g

end Consent

/-- An effect comes to a player: the use and the game when the effect was reached, and how it was
settled whether it applies to the player. -/
structure Visit where
  effect : PlannedEffect
  use : AbilityUse
  game : Game
  player : PlayerId
  consent : Consent

namespace Visit

def key (v : Visit) : Nat × PlayerId :=
  (v.effect.group, v.player)

def isAsked (v : Visit) : Bool :=
  match v.consent with
  | .asked _ => true
  | _ => false

def replies (v : Visit) : List (PlayerId × Reply) :=
  match v.consent with
  | .asked replies => replies.map (v.player, ·)
  | _ => []

end Visit

theorem ObjectRef.player_mem {objects : List ObjectRef} {p : PlayerId}
    (mem : p ∈ objects.filterMap ObjectRef.player?) : .player p ∈ objects := by
  obtain ⟨o, listed, same⟩ := List.mem_filterMap.1 mem
  cases o with
  | player q => exact Option.some.inj same ▸ listed
  | card c => exact nomatch same

/-- An effect of players comes to its subjects one after the other. To each of them it applies, or
it is skipped, as the consent says; when it fails for one of them nothing more is done. -/
inductive Visits (e : PlannedEffect) (effect : PlayerEffect) (reached : AbilityUse) (start : Game) :
    List PlayerId → AbilityUse → Game → List Visit → Except EngineError AbilityUse → Game → Prop
  | done {u : AbilityUse} {g : Game} : Visits e effect reached start [] u g [] (.ok u) g
  | skipped {p : PlayerId} {ps : List PlayerId} {c : Consent} {u : AbilityUse} {visits : List Visit}
      {result : Except EngineError AbilityUse} {g h k : Game} (given : c.Given p g h)
      (declined : c.accepted = false) (rest : Visits e effect reached start ps u h visits
        result k) :
      Visits e effect reached start (p :: ps) u g (⟨e, reached, start, p, c⟩ :: visits) result k
  | applied {p : PlayerId} {ps : List PlayerId} {c : Consent} {u v : AbilityUse}
      {visits : List Visit} {result : Except EngineError AbilityUse} {g h k l : Game}
      (given : c.Given p g h) (accepted : c.accepted = true)
      (ran : StateT.run (ExceptT.run (Act.applyToPlayer u effect p (start.objectsFor reached e)))
        h = (.ok v, k))
      (rest : Visits e effect reached start ps v k visits result l) :
      Visits e effect reached start (p :: ps) u g (⟨e, reached, start, p, c⟩ :: visits) result l
  | failed {p : PlayerId} {ps : List PlayerId} {c : Consent} {u : AbilityUse} {error : EngineError}
      {g h k : Game} (given : c.Given p g h) (accepted : c.accepted = true)
      (ran : StateT.run
        (ExceptT.run (Act.applyToPlayer u effect p (start.objectsFor reached e))) h =
        (.error error, k)) :
      Visits e effect reached start (p :: ps) u g [⟨e, reached, start, p, c⟩] (.error error) k

/-- Effects in turn, each with the subjects that it has when it is reached. Effects of cards apply
to their subjects without a visit; when an effect fails nothing more is done. -/
inductive Course :
    List PlannedEffect → AbilityUse → Game → List Visit → Except EngineError AbilityUse →
    Game → Prop
  | done {u : AbilityUse} {g : Game} : Course [] u g [] (.ok u) g
  | players {e : PlannedEffect} {es : List PlannedEffect} {effect : PlayerEffect} {u v : AbilityUse}
      {visits later : List Visit} {result : Except EngineError AbilityUse} {g h k : Game}
      (kind : e.effect = .player effect)
      (subjects : Visits e effect u g ((g.subjectsOf u e).filterMap ObjectRef.player?) u g visits
        (.ok v) h)
      (rest : Course es v h later result k) : Course (e :: es) u g (visits ++ later) result k
  | playersFailed {e : PlannedEffect} {es : List PlannedEffect} {effect : PlayerEffect}
      {u : AbilityUse} {visits : List Visit} {error : EngineError} {g h : Game}
      (kind : e.effect = .player effect)
      (subjects : Visits e effect u g ((g.subjectsOf u e).filterMap ObjectRef.player?) u g visits
        (.error error) h) : Course (e :: es) u g visits (.error error) h
  | cards {e : PlannedEffect} {es : List PlannedEffect} {effect : CardEffect} {u : AbilityUse}
      {visits : List Visit} {result : Except EngineError AbilityUse} {g h k : Game}
      (kind : e.effect = .card effect)
      (ran : StateT.run (ExceptT.run (((g.subjectsOf u e).filterMap ObjectRef.card?).forM fun c =>
        Act.applyToCard u.x effect c (g.objectsFor u e))) g = (.ok (), h))
      (rest : Course es u h visits result k) : Course (e :: es) u g visits result k
  | cardsFailed {e : PlannedEffect} {es : List PlannedEffect} {effect : CardEffect} {u : AbilityUse}
      {error : EngineError} {g h : Game} (kind : e.effect = .card effect)
      (ran : StateT.run (ExceptT.run (((g.subjectsOf u e).filterMap ObjectRef.card?).forM fun c =>
        Act.applyToCard u.x effect c (g.objectsFor u e))) g = (.error error, h)) :
      Course (e :: es) u g [] (.error error) h

structure Consulted (u : AbilityUse) (visits : List Visit) : Prop where
  listed : ∀ v ∈ visits, v.effect ∈ u.effects
  /-- Effects come to their subjects only. -/
  subjects : ∀ v ∈ visits, .player v.player ∈ v.game.subjectsOf v.use v.effect
  /-- Who is not asked is subject to an effect that is not optional. -/
  optional : ∀ v ∈ visits, v.consent = .unasked ↔ v.effect.optional = false
  /-- Nobody is asked twice about a clause. -/
  once : ((visits.filter Visit.isAsked).map Visit.key).Nodup
  agreed : ∀ (i : Nat) (v : Visit), visits[i]? = some v → v.effect.optional = true →
    ∃ j ≤ i, ∃ w, visits[j]? = some w ∧ w.isAsked = true ∧ w.key = v.key ∧
      w.consent.accepted = v.consent.accepted

theorem Consulted.nil (u : AbilityUse) : Consulted u [] := by
  constructor <;> simp

/-- One more visit, at which the player is asked unless there is an answer for the clause. -/
theorem Consulted.snoc {u : AbilityUse} {visits : List Visit} {v : Visit}
    (before : Consulted u visits)
    (listed : v.effect ∈ u.effects) (subject : .player v.player ∈ v.game.subjectsOf v.use v.effect)
    (optional : v.consent = .unasked ↔ v.effect.optional = false)
    (fresh : v.isAsked = true → ∀ w ∈ visits, w.isAsked = true → w.key ≠ v.key)
    (known : v.effect.optional = true → v.isAsked = false → ∃ w ∈ visits, w.isAsked = true ∧
      w.key = v.key ∧ w.consent.accepted = v.consent.accepted) : Consulted u (visits ++ [v]) where
  listed := List.forall_mem_append.2 ⟨before.listed, by simpa using listed⟩
  subjects := List.forall_mem_append.2 ⟨before.subjects, by simpa using subject⟩
  optional := List.forall_mem_append.2 ⟨before.optional, by simpa using optional⟩
  once := by
    rw [List.filter_append, List.map_append]
    cases asked : v.isAsked with
    | false => simpa [asked] using before.once
    | true =>
      have alone : ([v].filter Visit.isAsked).map Visit.key = [v.key] := by simp [asked]
      rw [alone]
      refine List.nodup_append.2 ⟨before.once, by simp, fun _ mem _ last => ?_⟩
      obtain ⟨w, kept, rfl⟩ := List.mem_map.1 mem
      obtain ⟨mem, put⟩ := List.mem_filter.1 kept
      rw [List.mem_singleton.1 last]
      exact fresh asked w mem put
  agreed i w found needed := by
    rcases Nat.lt_or_ge i visits.length with old | new
    · rw [List.getElem?_append_left old] at found
      obtain ⟨j, earlier, a, held, facts⟩ := before.agreed i w found needed
      refine ⟨j, earlier, a, ?_, facts⟩
      rw [List.getElem?_append_left (Nat.lt_of_le_of_lt earlier old)]
      exact held
    · rw [List.getElem?_append_right new] at found
      obtain ⟨last, rfl⟩ : i - visits.length = 0 ∧ v = w := by
        cases place : i - visits.length with
        | zero => exact ⟨rfl, by simpa [place] using found⟩
        | succ n => simp [place] at found
      cases asked : v.isAsked with
      | true =>
        refine ⟨i, Nat.le_refl i, v, ?_, asked, rfl, rfl⟩
        rw [List.getElem?_append_right new, last]
        rfl
      | false =>
        obtain ⟨a, mem, facts⟩ := known needed asked
        obtain ⟨j, held⟩ := List.mem_iff_getElem?.1 mem
        have inside : j < visits.length := (List.getElem?_eq_some_iff.1 held).1
        refine ⟨j, Nat.le_trans (Nat.le_of_lt inside) new, a, ?_, facts⟩
        rw [List.getElem?_append_left inside]
        exact held

def Consents.after (visits : List Visit) : Consents :=
  (visits.filter Visit.isAsked).map fun v => (v.key, v.consent.accepted)

namespace Consents

theorem after_snoc (visits : List Visit) (v : Visit) :
    after (visits ++ [v]) = after visits ++
      if v.isAsked then [(v.key, v.consent.accepted)] else [] := by
  cases asked : v.isAsked <;> simp [after, asked]

theorem key_ne_of_lookup_after {visits : List Visit} {key : Nat × PlayerId}
    (none : (after visits).lookup key = none) : ∀ w ∈ visits, w.isAsked = true → w.key ≠ key := by
  intro w mem asked same
  have kept : (w.key, w.consent.accepted) ∈ after visits :=
    List.mem_map.2 ⟨w, List.mem_filter.2 ⟨mem, asked⟩, rfl⟩
  exact absurd (List.lookup_eq_none_iff.1 none _ kept) (by simp [same])

theorem exists_of_lookup_after {visits : List Visit} {key : Nat × PlayerId} {accepted : Bool}
    (found : (after visits).lookup key = some accepted) :
    ∃ w ∈ visits, w.isAsked = true ∧ w.key = key ∧ w.consent.accepted = accepted := by
  obtain ⟨earlier, later, split, -⟩ := List.lookup_eq_some_iff.1 found
  have left : (key, accepted) ∈ after visits := by simp [split]
  obtain ⟨w, kept, same⟩ := List.mem_map.1 left
  obtain ⟨mem, asked⟩ := List.mem_filter.1 kept
  obtain ⟨rfl, rfl⟩ := Prod.mk.inj same
  exact ⟨w, mem, asked, rfl, rfl⟩

end Consents

/-- What is known of a resolution in a game that it came to by some visits, from a given game. -/
structure Remembers (u : AbilityUse) (start : Game) (visits : List Visit) (answers : Consents)
    (g : Game) :
    Prop where
  consulted : Consulted u visits
  answers : answers = .after visits
  replies : g.repliesTo .may = start.repliesTo .may ++ visits.flatMap Visit.replies

namespace Remembers

variable {u : AbilityUse} {start g h : Game} {visits : List Visit} {answers : Consents}

theorem nil (u : AbilityUse) (g : Game) : Remembers u g [] [] g :=
  ⟨.nil u, rfl, by simp⟩

theorem applying (before : Remembers u start visits answers g) {α : Type} {act : Act α}
    (kept : ∀ told, Act.Keeps (fun g => g.repliesTo .may = told) act) :
    Remembers u start visits answers (StateT.run (ExceptT.run act) g).2 :=
  ⟨before.consulted, before.answers, kept _ g before.replies⟩

theorem applyToPlayer (before : Remembers u start visits answers g) (v : AbilityUse)
    (effect : PlayerEffect)
    (p : PlayerId) (objects : List ObjectRef) : Remembers u start visits answers
      (StateT.run (ExceptT.run (Act.applyToPlayer v effect p objects)) g).2 :=
  before.applying fun told => (keptByApplying_repliesTo_may told).keeps_applyToPlayer v trivial
    p objects

theorem applyToCards (before : Remembers u start visits answers g) (x : Amount)
    (effect : CardEffect)
    (cards : List CardId) (objects : List ObjectRef) : Remembers u start visits answers
      (StateT.run (ExceptT.run (cards.forM fun c => Act.applyToCard x effect c objects)) g).2 :=
  before.applying fun told => .forM (fun c => (keptByApplying_repliesTo_may told).keeps_applyToCard
    trivial c objects) cards

variable {e : PlannedEffect} {reached : AbilityUse} {k : Game} {p : PlayerId}

theorem silent (before : Remembers u start visits answers g) {v : Visit}
    (unasked : v.isAsked = false)
    (consulted : Consulted u (visits ++ [v])) : Remembers u start (visits ++ [v]) answers g where
  consulted := consulted
  answers := by
    rw [before.answers, Consents.after_snoc, unasked]
    exact (List.append_nil _).symm
  replies := by
    have nothing : v.replies = [] := by
      obtain ⟨effect, use, game, player, consent⟩ := v
      cases consent with
      | asked replies => exact nomatch unasked
      | _ => rfl
    rw [before.replies, List.flatMap_append, List.flatMap_singleton, nothing, List.append_nil]

theorem unasked (before : Remembers u start visits answers g) (listed : e ∈ u.effects)
    (subject : .player p ∈ k.subjectsOf reached e) (mandatory : e.optional = false) :
    Remembers u start (visits ++ [⟨e, reached, k, p, .unasked⟩]) answers g := by
  refine before.silent rfl (before.consulted.snoc listed subject (by simpa using mandatory)
    nofun fun needed => ?_)
  exact absurd (mandatory.symm.trans needed) Bool.false_ne_true

theorem recalled (before : Remembers u start visits answers g) (listed : e ∈ u.effects)
    (subject : .player p ∈ k.subjectsOf reached e) (optional : e.optional = true) {accepted : Bool}
    (found : answers.lookup (e.group, p) = some accepted) :
    Remembers u start (visits ++ [⟨e, reached, k, p, .recalled accepted⟩]) answers g := by
  refine before.silent rfl (before.consulted.snoc listed subject (by simp [optional])
    nofun fun _ _ => ?_)
  exact Consents.exists_of_lookup_after (before.answers ▸ found)

theorem asked (before : Remembers u start visits answers g) (listed : e ∈ u.effects)
    (subject : .player p ∈ k.subjectsOf reached e) (optional : e.optional = true)
    (none : answers.lookup (e.group, p) = none) {tries : Nat} {chosen : Option Nat}
    {replies : List Reply} (put : Put p .may tries chosen replies g h) :
    Remembers u start (visits ++ [⟨e, reached, k, p, .asked replies⟩])
      (answers ++ [((e.group, p), (Consent.asked replies).accepted)]) h where
  consulted := by
    refine before.consulted.snoc listed subject (by simp [optional]) (fun _ => ?_) nofun
    exact Consents.key_ne_of_lookup_after (before.answers ▸ none)
  answers := by
    rw [before.answers, Consents.after_snoc]
    rfl
  replies := by
    rw [put.written, before.replies, List.flatMap_append, List.append_assoc]
    exact congrArg _ (congrArg _ (List.append_nil _).symm)

end Remembers

namespace Act

variable {u : AbilityUse} {start g k : Game} {visits : List Visit} {answers : Consents}
  {e : PlannedEffect}
  {reached : AbilityUse} {p : PlayerId}

theorem ends_consents (remembers : Remembers u start visits answers g) (listed : e ∈ u.effects)
    (subject : .player p ∈ k.subjectsOf reached e) (optional : e.optional = true) :
    Step.Ends (fun h => h = g) (consents answers e.group p) fun result h => ∃ c : Consent,
      c.Given p g h ∧
      c.accepted = result.1 ∧ Remembers u start (visits ++ [⟨e, reached, k, p, c⟩]) result.2 h := by
  unfold consents
  split
  · next accepted found =>
    refine Step.ends_pure fun h same => ?_
    subst same
    exact ⟨.recalled accepted, rfl, rfl, remembers.recalled listed subject optional found⟩
  · next none =>
    have asked : Step.Ends (fun h => h = g) (Step.chooseOne p .may) fun chosen h => ∃ replies,
        (StateT.run (Step.chooseOne p .may) g = (chosen, h) ∧
          Put p .may (g.config.maxPromptRetries.toNat + 1) chosen replies g h) := by
      rintro h rfl
      obtain ⟨replies, put⟩ := Step.chooseOne_puts p .may h h rfl
      exact ⟨replies, rfl, put⟩
    refine asked.bind fun chosen => Step.ends_pure fun h ⟨replies, ran, put⟩ => ?_
    have accepted : (Consent.asked replies).accepted = (chosen == some 0) := by
      have first : chosen = some 0 ↔ replies.getLast? = some (.pick 0) :=
        (put.chosen 0).trans (and_iff_right (by decide))
      exact Bool.eq_iff_iff.2 (by simp [Consent.accepted, first])
    refine ⟨.asked replies, ⟨chosen, ran, put⟩, accepted, ?_⟩
    exact accepted ▸ remembers.asked listed subject optional none put

theorem run_resolveForPlayer_visit (effect : PlayerEffect) (objects : List ObjectRef)
    {r : Resolution} (remembers : Remembers u start visits r.consents g) (listed : e ∈ u.effects)
    (subject : .player p ∈ k.subjectsOf reached e) :
    ∃ c answers h, c.Given p g h ∧ Remembers u start (visits ++ [⟨e, reached, k, p, c⟩]) answers h ∧
      StateT.run (ExceptT.run (resolveForPlayer e effect objects r p)) g =
        StateT.run (ExceptT.run (if c.accepted = true then do
            return ⟨← applyToPlayer r.use effect p objects, answers⟩
          else return ⟨r.use, answers⟩ : Act Resolution)) h := by
  cases optional : e.optional with
  | true =>
    obtain ⟨c, given, accepted, before⟩ := ends_consents remembers listed subject optional g rfl
    refine ⟨c, _, _, given, before, ?_⟩
    let asking := consents r.consents e.group p
    have asked : StateT.run (ExceptT.run (liftM asking : Act (Bool × Consents))) g =
      (.ok (StateT.run asking g).1, (StateT.run asking g).2) := rfl
    rw [resolveForPlayer, optional, if_pos rfl, run_bind_of_ok asked, accepted]
  | false =>
    refine ⟨.unasked, r.consents, g, rfl, remembers.unasked listed subject optional, ?_⟩
    rw [resolveForPlayer, optional]
    rfl

theorem run_foldlM_resolveForPlayer (effect : PlayerEffect) (listed : e ∈ u.effects)
    {ps : List PlayerId} (subjects : ∀ p ∈ ps, .player p ∈ k.subjectsOf reached e) {r : Resolution}
    (remembers : Remembers u start visits r.consents g) :
    ∃ later result answers h,
      StateT.run (ExceptT.run (ps.foldlM (resolveForPlayer e effect (k.objectsFor reached e)) r))
        g = (result.map (⟨·, answers⟩), h) ∧
      Visits e effect reached k ps r.use g later result h ∧
      Remembers u start (visits ++ later) answers h := by
  induction ps generalizing r g visits with
  | nil => exact ⟨[], .ok r.use, r.consents, g, rfl, .done, by simpa using remembers⟩
  | cons p ps ih =>
    obtain ⟨subject, others⟩ := List.forall_mem_cons.1 subjects
    obtain ⟨c, answers, h, given, before, visited⟩ :=
      run_resolveForPlayer_visit effect (k.objectsFor reached e) remembers listed subject
    rw [List.foldlM_cons]
    cases accepted : c.accepted with
    | false =>
      rw [accepted] at visited
      obtain ⟨later, result, answers, l, ran, rest, after⟩ :=
        ih (r := ⟨r.use, answers⟩) others before
      refine ⟨_, result, answers, l, ?_, .skipped given accepted rest, ?_⟩
      · rw [run_bind_of_ok visited]
        exact ran
      · simpa using after
    | true =>
      rw [accepted, if_pos rfl] at visited
      have after := before.applyToPlayer r.use effect p (k.objectsFor reached e)
      cases applied : StateT.run (ExceptT.run
        (applyToPlayer r.use effect p (k.objectsFor reached e))) h with
      | mk outcome l =>
        rw [applied] at after
        cases outcome with
        | ok v =>
          rw [run_bind_of_ok applied] at visited
          obtain ⟨later, result, answers, m, ran, rest, remembered⟩ :=
            ih (r := ⟨v, answers⟩) others after
          refine ⟨_, result, answers, m, ?_, .applied given accepted applied rest, ?_⟩
          · rw [run_bind_of_ok visited]
            exact ran
          · simpa using remembered
        | error error =>
          rw [run_bind_of_error applied] at visited
          exact ⟨_, .error error, answers, l, run_bind_of_error visited,
            .failed given accepted applied, after⟩

theorem run_resolveEffect_player {effect : PlayerEffect} (acts : e.effect = .player effect)
    (r : Resolution) (g : Game) : StateT.run (ExceptT.run (resolveEffect r e)) g =
      StateT.run (ExceptT.run (((g.subjectsOf r.use e).filterMap ObjectRef.player?).foldlM
        (resolveForPlayer e effect (g.objectsFor r.use e)) r)) g := by
  rw [resolveEffect, run_bind_of_ok (run_getThe g), acts]

theorem run_resolveEffect_card {effect : CardEffect} (acts : e.effect = .card effect)
    (r : Resolution)
    (g : Game) : StateT.run (ExceptT.run (resolveEffect r e)) g = StateT.run (ExceptT.run (do
      ((g.subjectsOf r.use e).filterMap ObjectRef.card?).forM fun c =>
        applyToCard r.use.x effect c (g.objectsFor r.use e)
      return r)) g := by
  rw [resolveEffect, run_bind_of_ok (run_getThe g), acts]

theorem run_foldlM_resolveEffect {es : List PlannedEffect} (listed : ∀ e ∈ es, e ∈ u.effects)
    {r : Resolution} (remembers : Remembers u start visits r.consents g) :
    ∃ later result answers h,
      StateT.run (ExceptT.run (es.foldlM resolveEffect r)) g = (result.map (⟨·, answers⟩), h) ∧
      Course es r.use g later result h ∧ Remembers u start (visits ++ later) answers h := by
  induction es generalizing r g visits with
  | nil => exact ⟨[], .ok r.use, r.consents, g, rfl, .done, by simpa using remembers⟩
  | cons e es ih =>
    obtain ⟨here, others⟩ := List.forall_mem_cons.1 listed
    rw [List.foldlM_cons]
    cases kind : e.effect with
    | player effect =>
      obtain ⟨ours, result, answers, h, ran, seen, after⟩ :=
        run_foldlM_resolveForPlayer effect here (fun _ mem => ObjectRef.player_mem mem) remembers
      rw [← run_resolveEffect_player kind r g] at ran
      cases result with
      | ok v =>
        obtain ⟨later, result, answers, k, rest, course, remembered⟩ :=
          ih (r := ⟨v, answers⟩) others after
        refine ⟨_, result, answers, k, ?_, .players kind seen course, ?_⟩
        · rw [run_bind_of_ok ran]
          exact rest
        · simpa using remembered
      | error error =>
        exact ⟨_, .error error, answers, h, run_bind_of_error ran, .playersFailed kind seen, after⟩
    | card effect =>
      have reached := run_resolveEffect_card kind r g
      have after := remembers.applyToCards r.use.x effect
        ((g.subjectsOf r.use e).filterMap ObjectRef.card?)
        (g.objectsFor r.use e)
      cases applied : StateT.run (ExceptT.run
        (((g.subjectsOf r.use e).filterMap ObjectRef.card?).forM fun c =>
        applyToCard r.use.x effect c (g.objectsFor r.use e))) g with
      | mk outcome h =>
        rw [applied] at after
        cases outcome with
        | ok =>
          rw [run_bind_of_ok applied] at reached
          obtain ⟨later, result, answers, k, rest, course, remembered⟩ := ih others after
          refine ⟨later, result, answers, k, ?_, .cards kind applied course, remembered⟩
          rw [run_bind_of_ok reached]
          exact rest
        | error error =>
          rw [run_bind_of_error applied] at reached
          exact ⟨[], .error error, r.consents, h, run_bind_of_error reached,
            .cardsFailed kind applied, by simpa using after⟩

end Act

def Effect.isOptional : Effect → Bool
  | .player _ optional _ => optional
  | .card _ _ => false

def AbilityUse.Unfolds (u : AbilityUse) (clauses : List Effect) : Prop :=
  List.Forall₂ PlannedEffect.Aimed (PlannedEffect.ofClauses 0 clauses) u.effects

namespace PlannedEffect

theorem optional_of_mem_ofClause {group : Nat} {clause : Effect} {e : PlannedEffect}
    (mem : e ∈ ofClause group clause) : e.optional = clause.isOptional := by
  cases clause <;>
  · obtain ⟨effect, -, rfl⟩ := List.mem_map.1 mem
    rfl

theorem exists_of_mem_ofClauses {first : Nat} {clauses : List Effect} {e : PlannedEffect}
    (mem : e ∈ ofClauses first clauses) :
    ∃ i clause, e.group = first + i ∧ clauses[i]? = some clause ∧ e ∈ ofClause e.group clause := by
  induction clauses generalizing first with
  | nil => exact nomatch mem
  | cons clause clauses ih =>
    rcases List.mem_append.1 mem with here | later
    · have group := group_of_mem_ofClause here
      exact ⟨0, clause, group, rfl, group ▸ here⟩
    · obtain ⟨i, other, group, found, listed⟩ := ih later
      exact ⟨i + 1, other, by rw [group]; omega, found, listed⟩

end PlannedEffect

namespace AbilityUse

theorem unfolds_pickUse (announce : Announce) (c : Composed) {u : AbilityUse}
    (none : u.effects = []) (first : u.nextGroup = 0) (g : Game) :
    (StateT.run (Step.pickUse announce (u.prepare c)) g).1.Unfolds c.effects := by
  have aimed := Step.pickUse_aimed announce (u.prepare c) g
  rw [prepare, effects_prepareClauses, none, first, List.nil_append] at aimed
  exact aimed

theorem Unfolds.exists_clause {u : AbilityUse} {clauses : List Effect} (unfolds : u.Unfolds clauses)
    {e : PlannedEffect} (mem : e ∈ u.effects) :
    ∃ clause, clauses[e.group]? = some clause ∧ e.optional = clause.isOptional ∧
      ∃ d ∈ PlannedEffect.ofClause e.group clause, d.Aimed e := by
  obtain ⟨d, listed, aimed⟩ := PlannedEffect.Aimed.exists_of_mem unfolds mem
  obtain ⟨i, clause, place, found, planned⟩ := PlannedEffect.exists_of_mem_ofClauses listed
  have group : e.group = d.group := by rw [aimed.same]
  have optional : e.optional = d.optional := by rw [aimed.same]
  rw [Nat.zero_add] at place
  refine ⟨clause, ?_, optional.trans (PlannedEffect.optional_of_mem_ofClause planned), d, ?_, aimed⟩
  · rw [group, place]
    exact found
  · rw [group]
    exact planned

end AbilityUse

structure Consults (u : AbilityUse) (g : Game) (visits : List Visit)
    (result : Except EngineError AbilityUse) (h : Game) : Prop extends Consulted u visits where
  ran : StateT.run (ExceptT.run (Act.resolveEffects u)) g = (result, h)
  course : Course u.effects u g visits result h
  /-- Nothing else asks whether an optional clause applies. -/
  replies : h.repliesTo .may = g.repliesTo .may ++ visits.flatMap Visit.replies
  /-- One number is one clause, and what is optional is so by its clause. -/
  clauses : ∀ clauses, u.Unfolds clauses → ∀ v ∈ visits, ∃ clause,
    clauses[v.effect.group]? = some clause ∧
    v.effect.optional = clause.isOptional ∧ ∃ d ∈ PlannedEffect.ofClause v.effect.group clause,
      d.Aimed v.effect

/-- However players choose, each of them has one say in each optional clause that comes to them. The
first effect of the clause with the player among its subjects puts the question, again only after a
reply out of range; every effect of the clause that is reached applies to the player just when the
reply was the first option. Effects of other clauses apply to all their subjects unasked, and nobody
else is asked. -/
theorem AbilityUse.consults (u : AbilityUse) (g : Game) :
    ∃ visits result h, Consults u g visits result h := by
  have listed : ∀ e ∈ u.effects, e ∈ u.effects := fun _ mem => mem
  obtain ⟨visits, result, answers, h, ran, course, remembers⟩ :=
    Act.run_foldlM_resolveEffect listed (r := ⟨u, []⟩) (Remembers.nil u g)
  refine ⟨visits, result, h, ⟨remembers.consulted, ?_, course, remembers.replies, ?_⟩⟩
  · cases result with
    | ok v => exact Act.run_bind_of_ok ran
    | error error => exact Act.run_bind_of_error ran
  · exact fun clauses unfolds v mem => unfolds.exists_clause (remembers.consulted.listed v mem)

theorem consults_mayDraw :
    ∃ start, Game.create {} [⟨[.blank "Squire"], .script [.pick 7, .pick 0]⟩,
      ⟨[.blank "Page"], .pass⟩] =
        .ok start ∧
      let c : Composed := ⟨[.player (some [.each]) true [.draw (.number 1), .gainLife (.number 2)],
        .player none false [.loseLife (.number 1)]]⟩
      let planned := (AbilityUse.fresh ⟨0⟩ .triggered ⟨0⟩ ⟨0⟩).prepare c
      let u := (StateT.run (Step.pickUse Step.emit planned) start).1
      u.Unfolds c.effects ∧ ∃ visits result h, Consults u start visits result h ∧
        visits.flatMap Visit.replies = [(⟨0⟩, .pick 7), (⟨0⟩, .pick 0), (⟨1⟩, .skip)] ∧
        (h.player ⟨0⟩).hand.cards = [⟨0⟩] ∧ (h.player ⟨0⟩).life = 21 ∧
        (h.player ⟨1⟩).hand.cards = [] ∧ (h.player ⟨1⟩).life = 20 := by
  refine ⟨_, rfl, AbilityUse.unfolds_pickUse Step.emit _ rfl rfl _, ?_⟩
  obtain ⟨visits, result, h, consults⟩ := AbilityUse.consults _ _
  refine ⟨visits, result, h, consults, ?_⟩
  obtain rfl : _ = h := congrArg Prod.snd consults.ran
  refine ⟨?_, by decide +kernel, by decide +kernel, by decide +kernel, by decide +kernel⟩
  refine consults.replies.symm.trans ?_
  decide +kernel

end CardGame
