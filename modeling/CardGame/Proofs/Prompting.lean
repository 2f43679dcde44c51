import CardGame.Game.Prompting
import CardGame.Proofs.Keeping

/-!
What questions to players leave alone. They change the chooser of the player who is asked, and write
into the chronicle what that player was asked and when an answer was out of range; nothing else.
-/

namespace CardGame

variable {P : Game → Prop}

/-- A property that neither questions nor entries of the chronicle touch. -/
def BlindToTalk (P : Game → Prop) : Prop :=
  ∀ g choosers chronicle, P g → P { g with choosers := choosers, chronicle := chronicle }

theorem BlindToTalk.record (blind : BlindToTalk P) {g : Game} (e : Entry) (h : P g) :
    P (g.record e) :=
  blind g g.choosers (g.chronicle.push e) h

structure KeptByPrompt (p : PlayerId) (prompt : Prompt) (P : Game → Prop) : Prop where
  ask : Step.Keeps P (Step.ask p prompt)
  outOfRange : ∀ index options, Step.Keeps P (Step.notice (.answerOutOfRange p index options))

structure KeptByAsking (p : PlayerId) (P : Game → Prop) : Prop where
  ask : ∀ prompt, Step.Keeps P (Step.ask p prompt)
  outOfRange : ∀ index options, Step.Keeps P (Step.notice (.answerOutOfRange p index options))

theorem KeptByAsking.prompt {p : PlayerId} (k : KeptByAsking p P) (prompt : Prompt) :
    KeptByPrompt p prompt P :=
  ⟨k.ask prompt, k.outOfRange⟩

namespace Step

theorem keeps_maxTries : Keeps P maxTries :=
  keeps_get.bind fun _ => keeps_pure _

section Putting

variable {p : PlayerId} {prompt : Prompt} (k : KeptByPrompt p prompt P)
include k

theorem keeps_chooseOneWithin (tries : Nat) : Keeps P (chooseOneWithin p prompt tries) := by
  induction tries with
  | zero => exact keeps_pure none
  | succ tries ih =>
    refine k.ask.bind fun reply => ?_
    split
    · split
      · exact keeps_pure _
      · exact (k.outOfRange _ _).bind fun _ => ih
    · exact keeps_pure none

theorem keeps_chooseOne_of_prompt : Keeps P (chooseOne p prompt) := by
  unfold chooseOne
  split
  · exact keeps_pure none
  · exact keeps_maxTries.bind fun tries => keeps_chooseOneWithin k tries

theorem keeps_chooseManyWithin (count tries : Nat) :
    Keeps P (chooseManyWithin p prompt count tries) := by
  induction tries with
  | zero => exact keeps_pure []
  | succ tries ih =>
    refine k.ask.bind fun reply => ?_
    split
    · split
      · exact (k.outOfRange _ _).bind fun _ => ih
      · exact keeps_pure _
    · exact keeps_pure []

theorem keeps_chooseMany_of_prompt (count : Nat) : Keeps P (chooseMany p prompt count) := by
  unfold chooseMany
  split
  · exact keeps_pure []
  · exact keeps_maxTries.bind fun tries => keeps_chooseManyWithin k count tries

end Putting

section Asking

variable {p : PlayerId} (k : KeptByAsking p P)
include k

theorem keeps_chooseOne_of_asking (prompt : Prompt) : Keeps P (chooseOne p prompt) :=
  keeps_chooseOne_of_prompt (k.prompt prompt)

theorem keeps_chooseMany_of_asking (prompt : Prompt) (count : Nat) :
    Keeps P (chooseMany p prompt count) :=
  keeps_chooseMany_of_prompt (k.prompt prompt) count

end Asking

theorem keeps_notice (blind : BlindToTalk P) (n : Notice) : Keeps P (notice n) :=
  keeps_modify fun _ h => blind.record _ h

theorem keeps_ask (blind : BlindToTalk P) (p : PlayerId) (prompt : Prompt) :
    Keeps P (ask p prompt) := by
  refine keeps_get.bind fun g => ?_
  split
  · exact keeps_pure _
  · exact (keeps_modify fun g h => blind g _ _ h).bind fun _ => keeps_pure _

end Step

theorem BlindToTalk.asking (blind : BlindToTalk P) (p : PlayerId) : KeptByAsking p P where
  ask := Step.keeps_ask blind p
  outOfRange _ _ := Step.keeps_notice blind _

def KeptByTargeting (P : Game → Prop) : Prop :=
  ∀ p options, Step.Keeps P (Step.chooseMany p (.target options 1) 1)

theorem BlindToTalk.targeting (blind : BlindToTalk P) : KeptByTargeting P :=
  fun p _ => Step.keeps_chooseMany_of_asking (blind.asking p) _ 1

namespace Step

theorem keeps_chooseOne (blind : BlindToTalk P) (p : PlayerId) (prompt : Prompt) :
    Keeps P (chooseOne p prompt) :=
  keeps_chooseOne_of_asking (blind.asking p) prompt

theorem keeps_chooseMany (blind : BlindToTalk P) (p : PlayerId) (prompt : Prompt) (count : Nat) :
    Keeps P (chooseMany p prompt count) :=
  keeps_chooseMany_of_asking (blind.asking p) prompt count

theorem keeps_reveal (blind : BlindToTalk P) (p : PlayerId) (cards : List CardId) :
    Keeps P (reveal p cards) := by
  refine keeps_get.bind fun g => ?_
  split
  · exact keeps_modify fun g h => blind g _ _ h
  · exact keeps_pure ()

end Step

/-- Whether a notice tells that an event was dropped. -/
def Notice.isDrop : Notice → Bool
  | .eventDropped _ _ _ => true
  | _ => false

/-- A property that what is said to players keeps: questions, revelations, and notices of anything
but dropped events. -/
structure KeptByTalk (P : Game → Prop) : Prop where
  ask : ∀ p prompt, Step.Keeps P (Step.ask p prompt)
  reveal : ∀ p cards, Step.Keeps P (Step.reveal p cards)
  notice : ∀ n : Notice, n.isDrop = false → Step.Keeps P (Step.notice n)

def Entry.isTalk : Entry → Bool
  | .asked _ _ _ => true
  | .revealed _ _ => true
  | .noticed n => !n.isDrop
  | _ => false

theorem KeptByTalk.of_entries
    (said : ∀ g choosers e, e.isTalk → P g → P ({ g with choosers := choosers }.record e)) :
    KeptByTalk P where
  ask p prompt := by
    refine Step.keeps_get.bind fun g => ?_
    split
    · exact Step.keeps_pure _
    · exact (Step.keeps_modify fun g start => said g _ _ rfl start).bind fun _ => Step.keeps_pure _
  reveal p cards := by
    refine Step.keeps_get.bind fun g => ?_
    split
    · exact Step.keeps_modify fun g start => said g _ _ rfl start
    · exact Step.keeps_pure ()
  notice n kept := Step.keeps_modify fun g start =>
    said g g.choosers (.noticed n) (by simp [Entry.isTalk, kept]) start

theorem KeptByTalk.asking (talk : KeptByTalk P) (p : PlayerId) : KeptByAsking p P where
  ask := talk.ask p
  outOfRange _ _ := talk.notice _ rfl

theorem KeptByTalk.targeting (talk : KeptByTalk P) : KeptByTargeting P :=
  fun p _ => Step.keeps_chooseMany_of_asking (talk.asking p) _ 1

theorem BlindToTalk.saying (blind : BlindToTalk P) : KeptByTalk P where
  ask := Step.keeps_ask blind
  reveal := Step.keeps_reveal blind
  notice n _ := Step.keeps_notice blind n

def Game.reading {α : Type} (read : Entry → Option α) (g : Game) : List α :=
  g.chronicle.toList.filterMap read

section Reading

variable {α : Type} {read : Entry → Option α}

theorem Game.reading_record (read : Entry → Option α) (g : Game) (e : Entry) :
    (g.record e).reading read = g.reading read ++ (read e).toList := by
  simp only [reading, record, Array.toList_push, List.filterMap_append]
  cases h : read e <;> simp [h]

theorem Game.reading_record_of_none {g : Game} {e : Entry} (silent : read e = none) :
    (g.record e).reading read = g.reading read := by
  rw [reading_record, silent, Option.toList_none, List.append_nil]

theorem KeptByPrompt.of_reading {p : PlayerId} {prompt : Prompt}
    (asked : ∀ reply, read (.asked p prompt reply) = none)
    (outOfRange : ∀ index options, read (.noticed (.answerOutOfRange p index options)) = none)
    (told : List α) :
    KeptByPrompt p prompt fun g => g.reading read = told where
  ask := by
    refine Step.keeps_get.bind fun g => ?_
    split
    · exact Step.keeps_pure _
    · refine (Step.keeps_modify fun g same => ?_).bind fun _ => Step.keeps_pure _
      refine Eq.trans ?_ same
      exact Game.reading_record_of_none (asked _)
  outOfRange _ _ := Step.keeps_modify fun g same =>
    (Game.reading_record_of_none (outOfRange _ _)).trans same

end Reading

theorem nodup_eraseDups {α : Type} [BEq α] [LawfulBEq α] : ∀ l : List α, l.eraseDups.Nodup
  | [] => List.nodup_nil
  | a :: rest => by
    rw [List.eraseDups_cons, List.nodup_cons]
    exact ⟨by simp, nodup_eraseDups _⟩
termination_by l => l.length
decreasing_by exact Nat.lt_succ_of_le (List.length_filter_le _ _)

/-- Some of the options of a prompt, each once. -/
structure Selection (prompt : Prompt) (count : Nat) (chosen : List Nat) : Prop where
  distinct : chosen.Nodup
  atMost : chosen.length ≤ count
  options : ∀ i ∈ chosen, i < prompt.size

theorem Selection.nil (prompt : Prompt) (count : Nat) : Selection prompt count [] :=
  ⟨List.nodup_nil, Nat.zero_le _, fun _ mem => nomatch mem⟩

theorem Step.chooseOne_selects (p : PlayerId) (prompt : Prompt) :
    Gives (chooseOne p prompt) fun chosen => ∀ i ∈ chosen, i < prompt.size := by
  have within : ∀ tries, Gives (chooseOneWithin p prompt tries) fun chosen => ∀ i ∈ chosen,
      i < prompt.size := by
    intro tries
    induction tries with
    | zero => exact gives_pure nofun
    | succ tries ih =>
      refine Gives.bind fun reply => ?_
      split
      · split
        · next inside => exact gives_pure fun i mem => Option.mem_some.1 mem ▸ inside
        · exact Gives.bind fun _ => ih
      · exact gives_pure nofun
  unfold chooseOne
  split
  · exact gives_pure nofun
  · exact Gives.bind within

theorem Step.chooseMany_selects (p : PlayerId) (prompt : Prompt) (count : Nat) :
    Gives (chooseMany p prompt count) (Selection prompt count) := by
  have within : ∀ tries, Gives (chooseManyWithin p prompt count tries)
      (Selection prompt count) := by
    intro tries
    induction tries with
    | zero => exact gives_pure (.nil prompt count)
    | succ tries ih =>
      refine Gives.bind fun reply => ?_
      split
      · next indices =>
        split
        · exact Gives.bind fun _ => ih
        · next within =>
          have taken : (indices.eraseDups.take count).Sublist indices.eraseDups :=
            List.take_sublist _ _
          refine gives_pure ⟨(nodup_eraseDups indices).sublist taken, List.length_take_le _ _, ?_⟩
          intro i mem
          have := List.find?_eq_none.1 within i (List.mem_eraseDups.1 (taken.subset mem))
          simpa using this
      · exact gives_pure (.nil prompt count)
  unfold chooseMany
  split
  · exact gives_pure (.nil prompt count)
  · exact Gives.bind within

def Declines (g : Game) (p : PlayerId) (prompt : Prompt) : Prop :=
  ∀ chooser, g.choosers.get? p = some chooser → ∀ i, (chooser.ask prompt).1 ≠ .pick i

namespace Step

variable {g : Game} {p : PlayerId} {prompt : Prompt}

theorem ends_ask_of_declines (declines : Declines g p prompt) :
    Ends (fun h => h = g) (ask p prompt) fun reply _ => ∀ i, reply ≠ .pick i := by
  have known : Ends (fun h => h = g) get fun known _ => known = g := ends_get fun _ same => same
  refine known.bind fun known => ?_
  split
  · exact ends_pure fun _ _ => nofun
  · next chooser found => exact fun _ same => declines chooser (same ▸ found)

theorem ends_chooseOne_of_declines (declines : Declines g p prompt) :
    Ends (fun h => h = g) (chooseOne p prompt) fun chosen _ => chosen = none := by
  have within : ∀ tries, Ends (fun h => h = g) (chooseOneWithin p prompt tries)
      fun chosen _ => chosen = none := by
    intro tries
    cases tries with
    | zero => exact ends_pure fun _ _ => rfl
    | succ tries =>
      refine (ends_ask_of_declines declines).bind fun reply => ?_
      split
      · next i => exact fun _ unpicked => absurd rfl (unpicked i)
      · exact ends_pure fun _ _ => rfl
  unfold chooseOne
  split
  · exact ends_pure fun _ _ => rfl
  · have tries : Ends (fun h => h = g) maxTries fun _ h => h = g := fun _ same => same
    exact tries.bind within

end Step

def Entry.isQuestionTo (p : PlayerId) : Entry → Prop
  | .asked q _ _ => q = p
  | .noticed (.answerOutOfRange q _ _) => q = p
  | _ => False

/-- From one game to a later one, a player was asked, and nothing else happened. -/
structure Talks (p : PlayerId) (g h : Game) : Prop where
  frame : h = { g with choosers := h.choosers, chronicle := h.chronicle }
  others : ∀ q, q ≠ p → h.choosers.get? q = g.choosers.get? q
  said : ∃ entries : List Entry, h.chronicle = g.chronicle ++ entries.toArray ∧
    ∀ e ∈ entries, e.isQuestionTo p

namespace Talks

variable {p : PlayerId} {f g h : Game}

theorem refl (p : PlayerId) (g : Game) : Talks p g g :=
  ⟨rfl, fun _ _ => rfl, [], by simp, fun _ mem => nomatch mem⟩

theorem trans (first : Talks p f g) (next : Talks p g h) : Talks p f h := by
  obtain ⟨said, same, about⟩ := first.said
  obtain ⟨said', same', about'⟩ := next.said
  have frame := next.frame
  rw [first.frame] at frame
  refine ⟨frame, fun q other => (next.others q other).trans (first.others q other),
    said ++ said', ?_, ?_⟩
  · rw [same', same, Array.append_assoc, ← List.append_toArray]
  · intro e mem
    exact (List.mem_append.1 mem).elim (about e) (about' e)

theorem keep (talks : Talks p g h) (blind : BlindToTalk P) (start : P g) : P h := by
  rw [talks.frame]
  exact blind g _ _ start

theorem asked (p : PlayerId) (g : Game) (ask : Chooser → Chooser) {e : Entry}
    (about : e.isQuestionTo p) :
    Talks p g ({ g with choosers := g.choosers.modify p ask }.record e) :=
  ⟨rfl, fun _ other => Seats.get?_modify_of_ne _ other.symm _, [e], by simp [Game.record], by simpa⟩

theorem noticed (g : Game) {e : Entry} (about : e.isQuestionTo p) : Talks p g (g.record e) :=
  ⟨rfl, fun _ _ => rfl, [e], by simp [Game.record], by simpa⟩

theorem reading (talks : Talks p g h) {α : Type} {read : Entry → Option α}
    (silent : ∀ e : Entry, e.isQuestionTo p → read e = none) : h.reading read = g.reading read := by
  obtain ⟨entries, same, about⟩ := talks.said
  have passed : entries.filterMap read = [] :=
    List.filterMap_eq_nil_iff.2 fun e mem => silent e (about e mem)
  rw [Game.reading, same, Array.toList_append, List.filterMap_append, passed, List.append_nil]
  rfl

theorem kept (p : PlayerId) (g : Game) : KeptByAsking p (Talks p g) where
  ask prompt := by
    refine Step.keeps_get.bind fun known => ?_
    split
    · exact Step.keeps_pure _
    · exact (Step.keeps_modify fun h talks => talks.trans (.asked p h _ rfl)).bind fun _ =>
        Step.keeps_pure _
  outOfRange _ _ := Step.keeps_modify fun h talks => talks.trans (.noticed h rfl)

end Talks

end CardGame
