import CardGame.Registry
import Mathlib.Data.List.Nodup

/-!
The index of a registry. It has the place of each name, and no two cards bear one name in lower
case: a card that is registered takes the place its name is known under, or comes last with its
name. So what is registered under a name is what the name gives, until something else is.
-/

namespace CardGame.Registry

def names (cards : List Card) : List String :=
  cards.map fun c => Text.lowerCase c.name

theorem names_append (cards further : List Card) :
    names (cards ++ further) = names cards ++ names further :=
  List.map_append

theorem names_cons (c : Card) (cards : List Card) :
    names (c :: cards) = Text.lowerCase c.name :: names cards :=
  rfl

theorem name_mem_names {c : Card} {cards : List Card} (mem : c ∈ cards) :
    Text.lowerCase c.name ∈ names cards :=
  List.mem_map_of_mem mem

theorem names_replace {c d : Card} (same : Text.lowerCase d.name = Text.lowerCase c.name)
    (front back : List Card) : names (front ++ c :: back) = names (front ++ d :: back) := by
  rw [names_append, names_append, names_cons, names_cons, same]

/-- The index has the place of each name, and no two cards bear one. -/
structure Indexed (r : Registry) : Prop where
  places : r.places = (names r.cards).zipIdx
  distinct : (names r.cards).Nodup

theorem lookup_zipIdx (ns : List String) (name : String) (first : Nat) :
    (ns.zipIdx first).lookup name = (ns.idxOf? name).map (· + first) := by
  induction ns generalizing first with
  | nil => rfl
  | cons n ns ih =>
    rw [List.zipIdx_cons, List.lookup_cons, List.idxOf?_cons, ih]
    by_cases same : n = name
    · simp [same]
    · have other : (name == n) = false := by simpa using Ne.symm same
      simp [same, other, Function.comp_def, Nat.add_right_comm, Nat.add_assoc]

theorem indexed_empty : empty.Indexed :=
  ⟨rfl, List.nodup_nil⟩

namespace Indexed

variable {r : Registry}

theorem lookup (indexed : r.Indexed) (name : String) :
    r.places.lookup name = r.cards.findIdx? fun c => Text.lowerCase c.name == name := by
  rw [indexed.places, lookup_zipIdx, List.idxOf?, names, List.findIdx?_map]
  exact Option.map_id'

theorem get?_eq (indexed : r.Indexed) (name : String) :
    r.get? name = r.cards.find? fun c => Text.lowerCase c.name == Text.lowerCase name := by
  rw [get?, indexed.lookup, List.find?_eq_bind_findIdx?_getElem?]

/-- A card that is registered takes the place of the one that bears its name, or comes last. -/
theorem register_cases (indexed : r.Indexed) (c : Card) :
    (∃ front d back, r.cards = front ++ d :: back ∧
      Text.lowerCase d.name = Text.lowerCase c.name ∧
      r.register c = (⟨front ++ c :: back, r.places⟩, [.duplicateName c.name])) ∨
    (Text.lowerCase c.name ∉ names r.cards ∧
      r.register c =
        (⟨r.cards ++ [c], r.places ++ [(Text.lowerCase c.name, r.cards.length)]⟩, [])) := by
  cases known : r.places.lookup (Text.lowerCase c.name) with
  | some place =>
    have ⟨inside, bears, _⟩ := List.findIdx?_eq_some_iff_getElem.1 (indexed.lookup _ ▸ known)
    refine .inl ⟨r.cards.take place, r.cards[place], r.cards.drop (place + 1), ?_, ?_, ?_⟩
    · rw [List.getElem_cons_drop, List.take_append_drop]
    · simpa using bears
    · simp only [register, known, List.set_eq_take_append_cons_drop, if_pos inside]
  | none =>
    have unknown := List.findIdx?_eq_none_iff.1 (indexed.lookup _ ▸ known)
    refine .inr ⟨?_, by simp only [register, known]⟩
    simpa [names] using unknown

theorem register (indexed : r.Indexed) (c : Card) : (r.register c).1.Indexed := by
  obtain ⟨front, d, back, whole, same, done⟩ | ⟨free, done⟩ := indexed.register_cases c
  · have kept : names (front ++ c :: back) = names r.cards := whole ▸ names_replace same front back
    rw [done]
    exact ⟨by rw [kept, indexed.places], kept ▸ indexed.distinct⟩
  · rw [done]
    refine ⟨?_, ?_⟩
    · rw [names_append, List.zipIdx_append, ← indexed.places]
      simp [names]
    · rw [names_append]
      exact indexed.distinct.append (List.nodup_singleton _) (List.disjoint_singleton.2 free)

theorem names_register (indexed : r.Indexed) (c : Card) :
    names (r.register c).1.cards =
      if Text.lowerCase c.name ∈ names r.cards then names r.cards
      else names r.cards ++ [Text.lowerCase c.name] := by
  obtain ⟨front, d, back, whole, same, done⟩ | ⟨free, done⟩ := indexed.register_cases c
  · have known : Text.lowerCase c.name ∈ names r.cards := by
      rw [← same, whole]
      exact name_mem_names (by simp)
    rw [done, if_pos known, whole, names_replace same]
  · rw [done, if_neg free, names_append]
    rfl

theorem get?_of_mem (indexed : r.Indexed) {c : Card} (mem : c ∈ r.cards) {name : String}
    (spelled : Text.lowerCase name = Text.lowerCase c.name) : r.get? name = some c := by
  obtain ⟨d, found⟩ : ∃ d,
      r.cards.find? (fun e => Text.lowerCase e.name == Text.lowerCase name) = some d :=
    Option.isSome_iff_exists.1 (List.find?_isSome.2 ⟨c, mem, by simp [spelled]⟩)
  have same : Text.lowerCase d.name = Text.lowerCase c.name := by
    rw [← spelled]
    simpa using List.find?_some found
  rw [indexed.get?_eq, found,
    List.inj_on_of_nodup_map indexed.distinct (List.mem_of_find?_eq_some found) mem same]

/-- Registering a card changes what its own name gives and nothing else. -/
theorem get?_register (indexed : r.Indexed) (c : Card) (name : String) :
    (r.register c).1.get? name =
      if Text.lowerCase c.name = Text.lowerCase name then some c else r.get? name := by
  have after := indexed.register c
  split
  next named =>
    refine after.get?_of_mem ?_ named.symm
    obtain ⟨front, d, back, -, -, done⟩ | ⟨-, done⟩ := indexed.register_cases c <;> simp [done]
  next other =>
    rw [after.get?_eq, indexed.get?_eq]
    obtain ⟨front, d, back, whole, same, done⟩ | ⟨-, done⟩ := indexed.register_cases c
    · simp [done, whole, same, other]
    · simp [done, other]

theorem eq_of_cards {s : Registry} (first : r.Indexed) (second : s.Indexed)
    (same : r.cards = s.cards) : r = s := by
  obtain ⟨cards, places⟩ := r
  obtain ⟨cards', places'⟩ := s
  obtain rfl : cards = cards' := same
  rw [show places = places' from first.places.trans second.places.symm]

theorem registerAll (indexed : r.Indexed) (cards : List Card) :
    (r.registerAll cards).1.Indexed := by
  induction cards generalizing r with
  | nil => exact indexed
  | cons c cards ih => exact ih (indexed.register c)

end Indexed

theorem indexed_ofCards (cards : List Card) : (ofCards cards).1.Indexed :=
  indexed_empty.registerAll cards

theorem registerAll_of_nodup {r : Registry} (indexed : r.Indexed) {cards : List Card}
    (distinct : (names (r.cards ++ cards)).Nodup) :
    (r.registerAll cards).1.cards = r.cards ++ cards ∧ (r.registerAll cards).2 = [] := by
  induction cards generalizing r with
  | nil => exact ⟨(List.append_nil _).symm, rfl⟩
  | cons c cards ih =>
    have free : Text.lowerCase c.name ∉ names r.cards := by
      rw [names_append, names_cons, List.nodup_append] at distinct
      exact fun mem => distinct.2.2 _ mem _ List.mem_cons_self rfl
    obtain ⟨front, d, back, whole, same, done⟩ | ⟨-, done⟩ := indexed.register_cases c
    · exact absurd (same ▸ name_mem_names (by simp [whole])) free
    · have next := ih (indexed.register c) (by rw [done]; simpa using distinct)
      rw [done] at next
      simpa [Registry.registerAll, done] using next

theorem Indexed.ofCards_cards {r : Registry} (indexed : r.Indexed) : ofCards r.cards = (r, []) := by
  obtain ⟨kept, silent⟩ := @registerAll_of_nodup empty indexed_empty r.cards indexed.distinct
  exact Prod.ext ((indexed_ofCards r.cards).eq_of_cards indexed kept) silent

end CardGame.Registry
