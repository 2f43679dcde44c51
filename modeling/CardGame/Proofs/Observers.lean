import CardGame.Event.Bus
import Mathlib.Data.List.Induction
import Mathlib.Data.List.Nodup

/-!
Observers and the calls of a bus. A bus answers each call from the calls before it alone, and
observers live in it: one is numbered by the registrations before its own and lives until it is
removed. The rows of the bus are the lists of those that live, one list for each kind of event.
-/

namespace CardGame

inductive BusCall where
  | register (kind : EventKind)
  | remove (h : HandlerId)
  | dispatch (e : GameEvent)
deriving DecidableEq

inductive BusAnswer where
  | registered (h : HandlerId)
  | removed (found : Bool)
  | told (observers : List HandlerId)
deriving DecidableEq

namespace BusCall

def registrations (past : List BusCall) : Nat :=
  past.countP fun
    | register _ => true
    | _ => false

def Live (past : List BusCall) (h : HandlerId) (kind : EventKind) : Prop :=
  ∃ before after, past = before ++ register kind :: after ∧ h.number = registrations before ∧
    remove h ∉ after

/-- A list has each observer that lives for a kind of event once, in order of registration, and no
other. -/
structure ListsLive (past : List BusCall) (kind : EventKind) (observers : List HandlerId) :
    Prop where
  ordered : observers.Pairwise (·.number < ·.number)
  mem : ∀ h, h ∈ observers ↔ Live past h kind

def Answers (past : List BusCall) : BusCall → BusAnswer → Prop
  | register _, .registered h => h.number = registrations past
  | remove h, .removed found => found = true ↔ ∃ kind, Live past h kind
  | dispatch e, .told observers =>
    observers.Nodup ∧
      if e.kind = .all then ListsLive past .all observers
      else ∃ own every, observers = own ++ every ∧ ListsLive past e.kind own ∧
        ListsLive past .all every
  | _, _ => False

theorem registrations_append (past : List BusCall) (call : BusCall) :
    registrations (past ++ [call]) = registrations past + registrations [call] :=
  List.countP_append

theorem live_append {past : List BusCall} {call : BusCall} {h : HandlerId} {kind : EventKind} :
    Live (past ++ [call]) h kind ↔
      Live past h kind ∧ call ≠ remove h ∨ call = register kind ∧
        h.number = registrations past := by
  constructor
  · rintro ⟨before, after, split, number, stays⟩
    -- the registration is the last call itself, or the last call comes after it
    obtain rfl | ⟨after, last, rfl⟩ := after.eq_nil_or_concat
    · obtain ⟨rfl, same⟩ := List.append_inj' split rfl
      exact .inr ⟨(List.cons.inj same).1, number⟩
    · rw [List.concat_eq_append, ← List.cons_append, ← List.append_assoc] at split
      obtain ⟨rfl, same⟩ := List.append_inj' split rfl
      obtain rfl := (List.cons.inj same).1
      rw [List.concat_eq_append, List.mem_append, List.mem_singleton, not_or] at stays
      exact .inl ⟨⟨before, after, rfl, number, stays.1⟩, Ne.symm stays.2⟩
  · rintro (⟨⟨before, after, rfl, number, stays⟩, other⟩ | ⟨rfl, number⟩)
    · refine ⟨before, after ++ [call], by simp, number, fun mem => ?_⟩
      obtain removed | removed := List.mem_append.1 mem
      · exact stays removed
      · exact other (List.mem_singleton.1 removed).symm
    · exact ⟨past, [], rfl, number, List.not_mem_nil⟩

theorem Live.number_lt {past : List BusCall} {h : HandlerId} {kind : EventKind}
    (live : Live past h kind) :
    h.number < registrations past := by
  obtain ⟨before, after, rfl, number, -⟩ := live
  rw [number, registrations, registrations, List.countP_append, List.countP_cons_of_pos rfl]
  omega

theorem Live.kind_unique {past : List BusCall} {h : HandlerId} {kind kind' : EventKind}
    (live : Live past h kind) (live' : Live past h kind') : kind = kind' := by
  induction past using List.reverseRecOn with
  | nil => obtain ⟨before, after, split, -⟩ := live; simp at split
  | append_singleton past call ih =>
    -- old numbers are below the count of registrations, and the new one is that count
    obtain ⟨was, -⟩ | ⟨rfl, number⟩ := live_append.1 live <;>
      obtain ⟨was', -⟩ | ⟨same, number'⟩ := live_append.1 live'
    · exact ih was was'
    · exact absurd number' (Nat.ne_of_lt was.number_lt)
    · exact absurd number (Nat.ne_of_lt was'.number_lt)
    · exact BusCall.register.inj same

theorem ListsLive.register {past : List BusCall} {asked : EventKind} {observers : List HandlerId}
    (lists : ListsLive past asked observers) (kind : EventKind) :
    ListsLive (past ++ [.register kind]) asked
      (observers ++ if kind = asked then [⟨registrations past⟩] else []) := by
  refine ⟨List.pairwise_append.2 ⟨lists.ordered, by split <;> simp, fun h old h' new => ?_⟩,
    fun h => ?_⟩
  · split at new
    · rw [List.mem_singleton.1 new]
      exact ((lists.mem h).1 old).number_lt
    · exact absurd new List.not_mem_nil
  · rw [live_append, List.mem_append, lists.mem]
    refine or_congr (and_iff_left nofun).symm ?_
    obtain ⟨number⟩ := h
    by_cases same : kind = asked <;> simp [same]

theorem ListsLive.nodup {past : List BusCall} {kind : EventKind} {observers : List HandlerId}
    (lists : ListsLive past kind observers) : observers.Nodup :=
  lists.ordered.imp fun less same => Nat.ne_of_lt less (congrArg _ same)

theorem ListsLive.remove {past : List BusCall} {kind : EventKind} {observers : List HandlerId}
    (lists : ListsLive past kind observers) (h : HandlerId) :
    ListsLive (past ++ [.remove h]) kind (observers.erase h) := by
  refine ⟨lists.ordered.sublist List.erase_sublist, fun k => ?_⟩
  rw [live_append, lists.nodup.mem_erase_iff, lists.mem]
  constructor
  · exact fun ⟨other, live⟩ => .inl ⟨live, fun same => other (BusCall.remove.inj same).symm⟩
  · rintro (⟨live, other⟩ | ⟨⟨⟩, -⟩)
    exact ⟨fun same => other (congrArg _ same.symm), live⟩

theorem ListsLive.dispatch {past : List BusCall} {kind : EventKind} {observers : List HandlerId}
    (lists : ListsLive past kind observers) (e : GameEvent) :
    ListsLive (past ++ [.dispatch e]) kind observers :=
  ⟨lists.ordered, fun h => by simp [live_append, lists.mem]⟩

end BusCall

namespace EventBus

open BusCall

def call (bus : EventBus) : BusCall → BusAnswer × EventBus
  | .register kind => (.registered (bus.register kind).1, (bus.register kind).2)
  | .remove h => (.removed (bus.remove h).1, (bus.remove h).2)
  | .dispatch e => (.told (bus.dispatch e.kind), bus)

def after (past : List BusCall) : EventBus :=
  past.foldl (fun bus call => (bus.call call).2) empty

/-- The rows of a bus list the observers that live after some calls. -/
structure Serves (bus : EventBus) (past : List BusCall) : Prop where
  next : bus.next = registrations past
  lists : ∀ kind, ListsLive past kind (bus.handlersOf kind)

theorem serves_empty : Serves empty [] :=
  ⟨rfl, fun kind =>
    ⟨.nil, fun h => iff_of_false List.not_mem_nil fun ⟨before, after, split, _⟩ => by
    simp at split⟩⟩

theorem Serves.once {bus : EventBus} {past : List BusCall} (serves : bus.Serves past)
    {h : HandlerId}
    {kind kind' : EventKind} (here : h ∈ bus.handlersOf kind) (there : h ∈ bus.handlersOf kind') :
    kind = kind' :=
  (((serves.lists kind).mem h).1 here).kind_unique (((serves.lists kind').mem h).1 there)

theorem Serves.call {bus : EventBus} {past : List BusCall} (serves : bus.Serves past)
    (call : BusCall) : (bus.call call).2.Serves (past ++ [call]) := by
  have numbered := registrations_append past call
  cases call with
  | register kind =>
    refine ⟨?_, fun asked => ?_⟩
    · rw [numbered, ← serves.next]
      rfl
    · rw [EventBus.call, handlersOf_register, serves.next]
      exact (serves.lists asked).register kind
  | remove h =>
    refine ⟨serves.next.trans numbered.symm, fun asked => ?_⟩
    rw [EventBus.call, handlersOf_remove bus serves.once]
    exact (serves.lists asked).remove h
  | dispatch e =>
    exact ⟨serves.next.trans numbered.symm, fun asked => (serves.lists asked).dispatch e⟩

theorem serves_after (past : List BusCall) : (after past).Serves past := by
  induction past using List.reverseRecOn with
  | nil => exact serves_empty
  | append_singleton past call ih =>
    rw [after, List.foldl_append]
    exact ih.call call

theorem Serves.answers {bus : EventBus} {past : List BusCall} (serves : bus.Serves past)
    (call : BusCall) :
    Answers past call (bus.call call).1 := by
  cases call with
  | register kind => exact serves.next
  | remove h => exact (bus.remove_fst h).trans (exists_congr fun kind => (serves.lists kind).mem h)
  | dispatch e =>
    have all := serves.lists .all
    simp only [Answers, EventBus.call, dispatch]
    by_cases wild : e.kind = .all
    · rw [if_pos wild, if_pos wild]
      exact ⟨all.nodup, all⟩
    · rw [if_neg wild, if_neg wild]
      refine ⟨?_, _, _, rfl, serves.lists e.kind, all⟩
      refine List.nodup_append.2 ⟨(serves.lists e.kind).nodup, all.nodup,
        fun h own k every same => wild ?_⟩
      exact serves.once own (same ▸ every)

theorem Serves.dispatch_remove {bus : EventBus} {past : List BusCall} (serves : bus.Serves past)
    (h : HandlerId) (kind : EventKind) :
    (bus.remove h).2.dispatch kind = (bus.dispatch kind).filter (· ≠ h) := by
  have taken (asked : EventKind) :
      (bus.remove h).2.handlersOf asked = (bus.handlersOf asked).filter (· ≠ h) := by
    rw [handlersOf_remove bus serves.once, (serves.lists asked).nodup.erase_eq_filter]
    exact List.filter_congr fun k _ => by rw [bne, beq_eq_decide, decide_not]
  rw [dispatch, dispatch, taken, taken]
  split
  · rfl
  · rw [List.filter_append]

/-- After any calls a bus answers by the observers that live. An event is told to those registered
for its kind and then to those registered for all, each once and in order of registration. An
observer is found when it lives; removing it takes it out of whatever is dispatched and leaves every
other observer in its place. -/
theorem answers_live (past : List BusCall) :
    (∀ call, Answers past call ((after past).call call).1) ∧
      ∀ h kind, (after (past ++ [.remove h])).dispatch kind =
        ((after past).dispatch kind).filter (· ≠ h) := by
  refine ⟨(serves_after past).answers, fun h kind => ?_⟩
  have last : after (past ++ [.remove h]) = ((after past).remove h).2 := by
    rw [after, List.foldl_append]; rfl
  rw [last]
  exact (serves_after past).dispatch_remove h kind

example : (after [.register .all, .register .draw, .register .win, .remove ⟨2⟩]).dispatch .draw =
    [⟨1⟩, ⟨0⟩] := by
  decide

end EventBus

end CardGame
