import CardGame.Event.Basic

/-!
Observers of a game. Each is registered for one kind of event, or for all of them, and is told of an
event after the observers of its own kind and before those of every kind, in order of registration.
-/

namespace CardGame

structure HandlerId where
  number : Nat
deriving DecidableEq, Repr

/-- The observers of one kind of event, in order of registration. -/
structure ObserverRow where
  kind : EventKind
  observers : List HandlerId

namespace ObserverRow

def find (asked : EventKind) : List ObserverRow → List HandlerId
  | [] => []
  | row :: rest => if row.kind = asked then row.observers else find asked rest

/-- Put an observer last in the row of its kind, which is begun when there is none. -/
def add (kind : EventKind) (h : HandlerId) : List ObserverRow → List ObserverRow
  | [] => [⟨kind, [h]⟩]
  | row :: rest =>
    if row.kind = kind then { row with observers := row.observers ++ [h] } :: rest
    else row :: add kind h rest

def remove (h : HandlerId) : List ObserverRow → Bool × List ObserverRow
  | [] => (false, [])
  | row :: rest =>
    if h ∈ row.observers then (true, { row with observers := row.observers.erase h } :: rest)
    else
      let (found, rest) := remove h rest
      (found, row :: rest)

theorem find_of_notMem {asked : EventKind} {rows : List ObserverRow}
    (absent : asked ∉ rows.map (·.kind)) :
    find asked rows = [] := by
  induction rows with
  | nil => rfl
  | cons row rest ih =>
    rw [List.map_cons, List.mem_cons, not_or] at absent
    rw [find, if_neg (Ne.symm absent.1), ih absent.2]

theorem find_add (kind : EventKind) (h : HandlerId) (rows : List ObserverRow) (asked : EventKind) :
    find asked (add kind h rows) = find asked rows ++ if kind = asked then [h] else [] := by
  induction rows with
  | nil => by_cases same : kind = asked <;> simp [add, find, same]
  | cons row rest ih =>
    rw [add]
    by_cases own : row.kind = kind
    · by_cases same : kind = asked <;> simp [find, own, same]
    · by_cases same : row.kind = asked
      · have other : kind ≠ asked := fun equal => own (same.trans equal.symm)
        rw [if_neg own, find, if_pos same, find, if_pos same, if_neg other, List.append_nil]
      · rw [if_neg own, find, if_neg same, find, if_neg same, ih]

theorem kinds_add (kind : EventKind) (h : HandlerId) (rows : List ObserverRow) :
    (add kind h rows).map (·.kind) =
      rows.map (·.kind) ++ if kind ∈ rows.map (·.kind) then [] else [kind] := by
  induction rows with
  | nil => rfl
  | cons row rest ih =>
    rw [add]
    by_cases own : row.kind = kind
    · simp [own]
    · simp [own, Ne.symm own, ih]

theorem nodup_kinds_add (kind : EventKind) (h : HandlerId) {rows : List ObserverRow}
    (distinct : (rows.map (·.kind)).Nodup) : ((add kind h rows).map (·.kind)).Nodup := by
  rw [kinds_add]
  split
  next => rwa [List.append_nil]
  next begun =>
    refine List.nodup_append.2 ⟨distinct, by simp, fun k known k' new => ?_⟩
    rw [List.mem_singleton.1 new]
    exact fun same => begun (same ▸ known)

theorem kinds_remove (h : HandlerId) (rows : List ObserverRow) :
    (remove h rows).2.map (·.kind) = rows.map (·.kind) := by
  induction rows with
  | nil => rfl
  | cons row rest ih =>
    rw [remove]
    split
    · rfl
    · rw [List.map_cons, List.map_cons, ih]

theorem remove_found {h : HandlerId} {rows : List ObserverRow}
    (distinct : (rows.map (·.kind)).Nodup) :
    (remove h rows).1 = true ↔ ∃ kind, h ∈ find kind rows := by
  induction rows with
  | nil => simp [remove, find]
  | cons row rest ih =>
    obtain ⟨absent, distinct⟩ := List.nodup_cons.1 distinct
    rw [remove]
    by_cases here : h ∈ row.observers
    · rw [if_pos here]
      exact iff_of_true rfl ⟨row.kind, by rwa [find, if_pos rfl]⟩
    · rw [if_neg here, ih distinct]
      refine exists_congr fun kind => ?_
      rw [find]
      split
      next own => rw [← own, find_of_notMem absent]; exact iff_of_false List.not_mem_nil here
      next => rfl

theorem find_remove {h : HandlerId} {rows : List ObserverRow} (distinct : (rows.map (·.kind)).Nodup)
    (once : ∀ {kind kind'}, h ∈ find kind rows → h ∈ find kind' rows → kind = kind')
    (asked : EventKind) :
    find asked (remove h rows).2 = (find asked rows).erase h := by
  induction rows with
  | nil => rfl
  | cons row rest ih =>
    obtain ⟨absent, distinct⟩ := List.nodup_cons.1 distinct
    have first : find row.kind (row :: rest) = row.observers := by rw [find, if_pos rfl]
    rw [remove]
    by_cases here : h ∈ row.observers
    · rw [if_pos here]
      by_cases own : row.kind = asked
      · rw [find, find, if_pos own, if_pos own]
      · have elsewhere : h ∉ find asked (row :: rest) := fun found =>
          own (once (first ▸ here) found)
        rw [List.erase_of_not_mem elsewhere, find, find, if_neg own, if_neg own]
    · rw [if_neg here]
      by_cases own : row.kind = asked
      · rw [find, find, if_pos own, if_pos own, List.erase_of_not_mem here]
      · rw [find, find, if_neg own, if_neg own]
        have later : ∀ {kind}, h ∈ find kind rest →
            h ∈ find kind (row :: rest) := fun {kind} found => by
          rw [find, if_neg]
          · exact found
          · rintro rfl
            exact List.not_mem_nil (find_of_notMem absent ▸ found)
        exact ih distinct fun found found' => once (later found) (later found')

end ObserverRow

/-- The observers of a game, with a row for each kind of event that has had some, and the number of
the next observer. -/
structure EventBus where
  rows : List ObserverRow
  /-- There is one row for each kind at most. -/
  distinct : (rows.map (·.kind)).Nodup
  next : Nat

namespace EventBus

def empty : EventBus :=
  ⟨[], List.nodup_nil, 0⟩

def register (bus : EventBus) (kind : EventKind) : HandlerId × EventBus :=
  (⟨bus.next⟩,
    { rows := ObserverRow.add kind ⟨bus.next⟩ bus.rows
      distinct := ObserverRow.nodup_kinds_add kind _ bus.distinct
      next := bus.next + 1 })

def remove (bus : EventBus) (h : HandlerId) : Bool × EventBus :=
  ((ObserverRow.remove h bus.rows).1,
    { rows := (ObserverRow.remove h bus.rows).2
      distinct := ObserverRow.kinds_remove h bus.rows ▸ bus.distinct
      next := bus.next })

def handlersOf (bus : EventBus) (kind : EventKind) : List HandlerId :=
  ObserverRow.find kind bus.rows

def dispatch (bus : EventBus) (kind : EventKind) : List HandlerId :=
  if kind = .all then bus.handlersOf .all else bus.handlersOf kind ++ bus.handlersOf .all

def size (bus : EventBus) : Nat :=
  (bus.rows.flatMap (·.observers)).length

theorem handlersOf_register (bus : EventBus) (kind asked : EventKind) :
    (bus.register kind).2.handlersOf asked =
      bus.handlersOf asked ++ if kind = asked then [⟨bus.next⟩] else [] :=
  ObserverRow.find_add kind _ bus.rows asked

theorem remove_fst (bus : EventBus) (h : HandlerId) :
    (bus.remove h).1 = true ↔ ∃ kind, h ∈ bus.handlersOf kind :=
  ObserverRow.remove_found bus.distinct

theorem handlersOf_remove (bus : EventBus) {h : HandlerId}
    (once : ∀ {kind kind'}, h ∈ bus.handlersOf kind → h ∈ bus.handlersOf kind' → kind = kind')
    (asked : EventKind) :
    (bus.remove h).2.handlersOf asked = (bus.handlersOf asked).erase h :=
  ObserverRow.find_remove bus.distinct once asked

end EventBus

end CardGame
