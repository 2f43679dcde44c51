import CardGame.Proofs.Beginnings
import CardGame.Proofs.CardSpelling
import CardGame.Proofs.Clarity

/-!
Clear cards. Printed effects and abilities follow each other without a mark between costs, and
without a line between types and abilities, so one may be read into the end of another. A card is
clear when none is.
-/

namespace CardGame

open Grammar (headKind startsTrait startsDescription startsMatch)
open Text (TokenKind)

/-- Whether each item of a list is clear, and ends before the next one. -/
def areClear {α : Type} (isClear : α → Bool) (apart : α → α → Bool) : List α → Bool
  | [] => true
  | a :: rest => isClear a && rest.head?.all (apart a) && areClear isClear apart rest

theorem areClear_append {α : Type} {isClear : α → Bool} {apart : α → α → Bool} {before : List α}
    {a : α} {rest : List α} (h : areClear isClear apart (before ++ a :: rest)) :
    isClear a ∧ ∀ b ∈ rest.head?, apart a b := by
  induction before with
  | nil =>
    simp only [List.nil_append, areClear, Bool.and_eq_true] at h
    exact ⟨h.1.1, (Option.all_eq_true _ _).1 h.1.2⟩
  | cons b before ih =>
    rw [List.cons_append, areClear, Bool.and_eq_true] at h
    exact ih h.2

/-- Whether what begins with a token would be read into the end of a match. -/
def Opening.takes (o : Opening) (k : TokenKind) : Bool :=
  (o.noun && (startsTrait k || k == .word "card" || k == .word "cards"))
    || (o.description && startsDescription k)

def AnyMatch.isClear : AnyMatch → Bool
  | card m => CardMatch.isClear m
  | _ => true

namespace PlayerEffect

def match? : PlayerEffect → Option CardMatch
  | destroy m => some m
  | discard _ filter => filter
  | shuffle objects _ => objects
  | put objects _ _ _ _ _ => some objects
  | activate m => some m
  | deactivate m => some m
  | sacrifice m => some m
  | _ => none

def isClear (e : PlayerEffect) : Bool :=
  e.match?.all CardMatch.isClear

def takes (k : TokenKind) : PlayerEffect → Bool
  | destroy m => (CardMatch.opening m).takes k
  | discard _ (some m) => (CardMatch.opening m).takes k
  | discard _ none => startsMatch k
  | put _ _ _ _ _ deactivated => !deactivated && k == .word "deactivated"
  | add _ => k == .mark '\x7b'
  | payEssence _ => k == .mark '\x7b'
  | activate m => (CardMatch.opening m).takes k
  | deactivate m => (CardMatch.opening m).takes k
  | sacrifice m => (CardMatch.opening m).takes k
  | _ => false

end PlayerEffect

namespace CardEffect

def isClear : CardEffect → Bool
  | damage _ target => target.isClear
  | _ => true

def takes (k : TokenKind) : CardEffect → Bool
  | damage _ (.card m) => (CardMatch.opening m).takes k
  | _ => false

end CardEffect

namespace Effect

def isClear : Effect → Bool
  | player _ _ effects => effects.all PlayerEffect.isClear
  | card subject effects => subject.all CardMatch.isClear && effects.all CardEffect.isClear

def takes (k : TokenKind) : Effect → Bool
  | player _ _ effects => effects.getLast?.any (PlayerEffect.takes k)
  | card _ effects => effects.getLast?.any (CardEffect.takes k)

/-- Whether a clause after another is not read as more effects of the same subject. -/
def apart : Effect → Effect → Bool
  | player _ _ _, player none _ _ => false
  | card _ _, card none _ => false
  | _, _ => true

end Effect

def Composed.isClear (c : Composed) : Bool :=
  areClear Effect.isClear Effect.apart c.effects

namespace AbilityCost

def isClear : AbilityCost → Bool
  | symbol _ => true
  | effect e => e.isClear

def takes (k : TokenKind) : AbilityCost → Bool
  | symbol _ => false
  | effect e => e.takes k

/-- Whether an element before the colon ends before the next one. -/
def apart (c d : AbilityCost) : Bool :=
  !c.takes (headKind d.spelled)

end AbilityCost

def Activated.isClear (a : Activated) : Bool :=
  areClear AbilityCost.isClear AbilityCost.apart a.costs && a.effect.isClear

namespace Condition

def isClear : Condition → Bool
  | player _ (.sacrifice m) => CardMatch.isClear m
  | card which _ => CardMatch.isClear which
  | numerical _ comparison => comparison.isClear
  | _ => true

def opening : Condition → Opening
  | player _ (.sacrifice m) => CardMatch.opening m
  | numerical _ comparison => comparison.opening
  | _ => {}

end Condition

namespace Trigger

def isClear : Trigger → Bool
  | play m => CardMatch.isClear m
  | dealtDamage m => CardMatch.isClear m
  | condition c => c.isClear
  | _ => true

def opening : Trigger → Opening
  | play m => CardMatch.opening m
  | condition c => c.opening
  | _ => {}

end Trigger

section Inner

variable (inner : CardMatch → Bool)

def Count.fits : Count → Bool
  | numberOf m => inner m
  | .attribute owner _ => inner owner
  | value _ => true

def Having.fits : Having → Bool
  | keywords _ => true
  | comparison _ c => c.count.fits inner

def Alternative.fits : Alternative → Bool
  | filter f => f.having.all (Having.fits inner) && f.targeting.all inner
  | _ => true

end Inner

def CardMatch.fits : (room : Nat) → CardMatch → Bool
  | 0, _ => false
  | room + 1, m => m.all (Alternative.fits (CardMatch.fits room))

/-- Whether clauses that follow a match at some depth, after a comma, do not continue its
alternatives: they begin with no match of cards, or with one alternative that there is room for. -/
def Composed.staysApart (c : Composed) (depth : Nat) : Bool :=
  match c.effects.head? with
  | some (.card (some m) _) => m.length == 1 && m.fits (Grammar.maxMatchDepth - depth)
  | _ => true

def Triggered.isClear (t : Triggered) : Bool :=
  t.trigger.isClear && t.effect.isClear && t.trigger.opening.alternatives.all t.effect.staysApart

def Ability.isClear : Ability → Bool
  | keyword _ => true
  | composed c => c.isClear
  | activated a => a.isClear
  | triggered t => t.isClear

def startsKind : TokenKind → Bool
  | .word w => (KindWord.ofWord? w).isSome
  | _ => false

def Card.isClear (c : Card) : Bool :=
  c.abilities.all Ability.isClear

/-- Whether the type line of a card ends before its abilities: it ends with subtypes, or the first
ability does not begin with the name of a kind. -/
def Card.lineEnds (c : Card) : Bool :=
  !c.subtypes.isEmpty || !c.abilities.head?.any fun a => startsKind (headKind a.spelled)

theorem CardMatch.Printable.of_fits {room deep : Nat} {m : CardMatch} (h : m.Printable deep)
    (fits : m.fits room) : m.Printable room := by
  induction room generalizing deep m with
  | zero => exact nomatch fits
  | succ room ih =>
    cases deep with
    | zero => exact nomatch h
    | succ deep =>
      refine ⟨h.1, fun a mem => ?_⟩
      have printable := h.2 a mem
      have aFits : a.fits (CardMatch.fits room) := List.all_eq_true.1 fits a mem
      cases a with
      | named => trivial
      | this => trivial
      | filter f =>
        simp only [Alternative.fits, Bool.and_eq_true, List.all_eq_true] at aFits
        refine ⟨printable.traits, fun h own => ?_, fun n inside => ?_⟩
        · have hFits : h.fits (CardMatch.fits room) := by
            have := aFits.1
            rw [Option.mem_def.1 own] at this
            exact this
          have hPrintable := printable.having h own
          cases h with
          | keywords ks => exact hPrintable
          | comparison s c =>
            obtain ⟨lead, count, trail⟩ := c
            cases count with
            | numberOf n => exact ih hPrintable hFits
            | «attribute» owner s => exact ih hPrintable hFits
            | value q => exact hPrintable
        · exact ih (printable.targeting n inside) (aFits.2 n inside)

end CardGame
