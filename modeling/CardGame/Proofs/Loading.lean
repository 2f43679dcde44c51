import CardGame.Proofs.Parts
import CardGame.Proofs.Queries
import CardGame.Proofs.Registering
import Mathlib.Data.Finset.Card
import Mathlib.Data.Finset.Dedup

/-!
Registries read from text. The blocks of a text are its maximal runs of lines that are not blank.
Each of them is read as a card or reported by its number, and whatever is registered after that, a
registry holds for each name the card that came last under it, in the place that its name was given
first.
-/

namespace CardGame.Text

/-! ### Runs of lines -/

theorem isBlankLine_iff {line : List Char} : isBlankLine line ↔ ∀ c ∈ line, isBlank c :=
  List.all_eq_true

theorem isBlankLine_eq_false_iff {line : List Char} :
    isBlankLine line = false ↔ ∃ c ∈ line, isBlank c = false := by
  simp [isBlankLine]

/-- A part of a list of lines holds lines and no blank ones, and there is no line beside it that
could be added to it. -/
structure Part.IsRun {lines : List (List Char)} (a : Part lines) : Prop where
  nonempty : a.piece ≠ []
  filled : ∀ line ∈ a.piece, ∃ c ∈ line, isBlank c = false
  opens : ∀ line ∈ a.before.getLast?, ∀ c ∈ line, isBlank c
  closes : ∀ line ∈ a.after.head?, ∀ c ∈ line, isBlank c

namespace Part.IsRun

variable {lines : List (List Char)} {a b : Part lines}

theorem start_lt_stop (run : a.IsRun) : a.start < a.stop := by
  have := List.length_pos_of_ne_nil run.nonempty
  simp only [start, stop]
  omega

theorem filled_at (run : a.IsRun) {i : Nat} {line : List Char} (here : lines[i]? = some line)
    (after : a.start ≤ i) (before : i < a.stop) : isBlankLine line = false := by
  obtain ⟨front, piece, back, rfl⟩ := a
  simp only [start, stop] at after before
  refine isBlankLine_eq_false_iff.2
    (run.filled line (List.mem_of_getElem? (i := i - front.length) ?_))
  rwa [List.append_assoc, List.getElem?_append_right after,
    List.getElem?_append_left (by omega)] at here

theorem start_ne_of_blank (run : a.IsRun) {i : Nat} {line : List Char}
    (here : lines[i]? = some line) (blank : isBlankLine line) : a.start ≠ i := by
  rintro rfl
  have filled := run.filled_at here (Nat.le_refl _) run.start_lt_stop
  simp [blank] at filled

theorem blank_before (run : a.IsRun) {i : Nat} {line : List Char} (here : lines[i]? = some line)
    (next : i + 1 = a.start) : isBlankLine line := by
  obtain ⟨front, piece, back, rfl⟩ := a
  simp only [start] at next
  refine isBlankLine_iff.2 (run.opens line ?_)
  rwa [List.append_assoc, List.getElem?_append_left (by omega),
    show i = front.length - 1 by omega, ← List.getLast?_eq_getElem?] at here

theorem blank_after (run : a.IsRun) {line : List Char} (here : lines[a.stop]? = some line) :
    isBlankLine line :=
  isBlankLine_iff.2 (run.closes line (a.getElem?_stop.symm.trans here))

theorem eq_of_overlap (first : a.IsRun) (second : b.IsRun) (order : a.start ≤ b.start)
    (overlap : b.start < a.stop) : a = b := by
  have lengthA := a.length_eq
  have lengthB := b.length_eq
  have nonemptyB := second.start_lt_stop
  have line (i : Nat) (inside : i < lines.length) : ∃ line, lines[i]? = some line :=
    ⟨_, List.getElem?_eq_getElem inside⟩
  have starts : a.start = b.start := by
    by_contra other
    obtain ⟨text, here⟩ := line (b.start - 1) (by omega)
    have blank := second.blank_before here (by omega)
    have filled := first.filled_at here (by omega) (by omega)
    simp [blank] at filled
  refine Part.eq_of_indices starts ?_
  by_contra other
  obtain shorter | longer := Nat.lt_or_gt_of_ne other
  · obtain ⟨text, here⟩ := line a.stop (by omega)
    have blank := first.blank_after here
    have filled := second.filled_at here (by omega) shorter
    simp [blank] at filled
  · obtain ⟨text, here⟩ := line b.stop (by omega)
    have blank := second.blank_after here
    have filled := first.filled_at here (by omega) longer
    simp [blank] at filled

theorem from_start_iff (run : a.IsRun) :
    b.IsRun ∧ a.start ≤ b.start ↔ b = a ∨ b.IsRun ∧ a.stop ≤ b.start := by
  constructor
  · rintro ⟨other, after⟩
    by_cases overlap : b.start < a.stop
    · exact .inl (run.eq_of_overlap other after overlap).symm
    · exact .inr ⟨other, Nat.le_of_not_lt overlap⟩
  · rintro (rfl | ⟨other, after⟩)
    · exact ⟨run, Nat.le_refl _⟩
    · exact ⟨other, run.start_lt_stop.le.trans after⟩

theorem start_lt_length (run : a.IsRun) : a.start < lines.length := by
  have size := a.length_eq
  have some := run.start_lt_stop
  omega

end Part.IsRun

theorem exists_runs_from {lines : List (List Char)} (a : Part lines)
    (filled : ∀ line ∈ a.piece, isBlankLine line = false)
    (opens : ∀ line ∈ a.before.getLast?, isBlankLine line)
    (closes : ∀ line ∈ a.after.head?, isBlankLine line) {parts : List (Part lines)}
    (order : parts.Pairwise fun b c => b.start < c.start)
    (later : ∀ b, b ∈ parts ↔ b.IsRun ∧ a.stop ≤ b.start) :
    ∃ all : List (Part lines),
      (if a.piece.isEmpty then parts.map Part.piece else a.piece :: parts.map Part.piece) =
        all.map Part.piece ∧
      all.Pairwise (fun b c => b.start < c.start) ∧ ∀ b, b ∈ all ↔ b.IsRun ∧ a.start ≤ b.start := by
  split
  next nothing =>
    have stays : a.stop = a.start := by simp [Part.stop, Part.start, List.isEmpty_iff.1 nothing]
    exact ⟨parts, rfl, order, stays ▸ later⟩
  next something =>
    have isRun : a.IsRun := {
      nonempty := by simpa using something
      filled := fun line mem => isBlankLine_eq_false_iff.1 (filled line mem)
      opens := fun line mem => isBlankLine_iff.1 (opens line mem)
      closes := fun line mem => isBlankLine_iff.1 (closes line mem) }
    have first (b : Part lines) (mem : b ∈ parts) : a.start < b.start :=
      isRun.start_lt_stop.trans_le ((later b).1 mem).2
    refine ⟨a :: parts, rfl, .cons first order, fun b => ?_⟩
    rw [List.mem_cons, later b]
    exact isRun.from_start_iff.symm

/-- What is read of a run and of the lines after it: exactly the runs from there on, in order. -/
theorem exists_runs {lines : List (List Char)} (done current rest : List (List Char))
    (whole : lines = done ++ current ++ rest) (filled : ∀ line ∈ current, isBlankLine line = false)
    (opens : ∀ line ∈ done.getLast?, isBlankLine line) :
    ∃ parts : List (Part lines), runs current rest = parts.map Part.piece ∧
      parts.Pairwise (fun a b => a.start < b.start) ∧
      ∀ a, a ∈ parts ↔ a.IsRun ∧ done.length ≤ a.start := by
  induction rest generalizing done current with
  | nil =>
    let last : Part lines := ⟨done, current, [], whole⟩
    have none (a : Part lines) : ¬ (a.IsRun ∧ last.stop ≤ a.start) := by
      rintro ⟨run, after⟩
      have size : lines.length = last.stop := last.length_eq
      have inside := run.start_lt_length
      omega
    rw [runs]
    exact exists_runs_from last filled opens (by simp [last]) .nil fun a =>
      iff_of_false List.not_mem_nil (none a)
  | cons line rest ih =>
    rw [runs]
    split
    next blank =>
      let first : Part lines := ⟨done, current, line :: rest, whole⟩
      obtain ⟨parts, all, order, mem⟩ := ih (done ++ current ++ [line]) [] (by simpa using whole)
        (by simp)
        (by simpa using blank)
      have here : lines[first.stop]? = some line := first.getElem?_stop
      have size : (done ++ current ++ [line]).length = first.stop + 1 := by
        rw [List.length_append, List.length_append, List.length_singleton, Part.stop]
      -- no run begins at the blank line, so those behind it are those from the end of the stretch
      -- on
      have later (a : Part lines) : a ∈ parts ↔ a.IsRun ∧ first.stop ≤ a.start := by
        rw [mem a, size]
        refine and_congr_right fun run => ?_
        have other := run.start_ne_of_blank here blank
        omega
      rw [all]
      exact exists_runs_from first filled opens (by simpa [first] using blank) order later
    next notBlank =>
      refine ih done (current ++ [line]) (by simpa using whole) ?_ opens
      intro other mem
      obtain before | rfl := by simpa using mem
      · exact filled other before
      · simpa using notBlank

theorem blocks_eq (text : String) :
    ∃ parts : List (Part (linesOf text.toList)),
      blocks text = parts.map (fun a => String.ofList (joinLines a.piece)) ∧
      parts.Pairwise (fun a b => a.start < b.start) ∧ ∀ a, a ∈ parts ↔ a.IsRun := by
  obtain ⟨parts, all, order, mem⟩ := exists_runs [] [] (linesOf text.toList) rfl nofun nofun
  refine ⟨parts, ?_, order, fun a => by simpa using mem a⟩
  rw [blocks, all, List.map_map]
  rfl

end CardGame.Text

namespace CardGame.Registry

/-! ### Cards under their names -/

def latest (cards : List Card) (name : String) : Option Card :=
  cards.reverse.find? fun c => Text.lowerCase c.name == Text.lowerCase name

def refusal? (block : String × Nat) : Option LoadError :=
  match Grammar.parse block.1 with
  | .ok _ => none
  | .error e => some ⟨block.2, e⟩

theorem readBlocks_eq (number : Nat) (blocks : List String) :
    readBlocks number blocks =
      (blocks.filterMap fun block => (Grammar.parse block).toOption,
        (blocks.zipIdx number).filterMap refusal?) := by
  induction blocks generalizing number with
  | nil => rfl
  | cons block blocks ih =>
    rw [readBlocks, ih, List.zipIdx_cons, List.filterMap_cons, List.filterMap_cons, refusal?]
    cases Grammar.parse block <;> rfl

theorem latest_cons (c : Card) (cards : List Card) (name : String) :
    latest (c :: cards) name = (latest cards name).or
      (if Text.lowerCase c.name = Text.lowerCase name then some c else none) := by
  rw [latest, List.reverse_cons, List.find?_append, List.find?_singleton]
  simp only [beq_iff_eq]
  rfl

theorem latest_eq_none_iff (cards : List Card) (name : String) :
    latest cards name = none ↔ Text.lowerCase name ∉ names cards := by
  simp [latest, names]

theorem get?_registerAll {r : Registry} (indexed : r.Indexed) (cards : List Card) (name : String) :
    (r.registerAll cards).1.get? name = (latest cards name).or (r.get? name) := by
  induction cards generalizing r with
  | nil => rfl
  | cons c cards ih =>
    rw [registerAll, ih (indexed.register c), latest_cons, Option.or_assoc,
      indexed.get?_register]
    split <;> rfl

theorem eraseDups_concat (names : List String) (name : String) :
    (names ++ [name]).eraseDups =
      if name ∈ names.eraseDups then names.eraseDups else names.eraseDups ++ [name] := by
  split
  next known =>
    exact eraseDups_append_of_subset (by simpa using known)
  next unknown =>
    have kept : [name].removeAll names = [name] := by
      simpa [List.removeAll] using unknown
    rw [List.eraseDups_append, kept]
    rfl

theorem names_registerAll {r : Registry} (indexed : r.Indexed) {earlier : List String}
    (held : names r.cards = earlier.eraseDups) (cards : List Card) :
    names (r.registerAll cards).1.cards = (earlier ++ names cards).eraseDups := by
  induction cards generalizing r earlier with
  | nil => rw [registerAll, held, names, List.map_nil, List.append_nil]
  | cons c cards ih =>
    have next : names (r.register c).1.cards = (earlier ++ [Text.lowerCase c.name]).eraseDups := by
      rw [eraseDups_concat, ← held, indexed.names_register]
    rw [registerAll, ih (indexed.register c) next, names_cons, List.append_assoc,
      List.singleton_append]

theorem registerAll_append (r : Registry) (cards further : List Card) :
    (r.registerAll (cards ++ further)).1 = ((r.registerAll cards).1.registerAll further).1 := by
  induction cards generalizing r with
  | nil => rfl
  | cons c cards ih => exact ih (r.register c).1

theorem load_eq (text : String) :
    (load text).registry =
        (ofCards ((Text.blocks text).filterMap fun block => (Grammar.parse block).toOption)).1 ∧
      (load text).errors = (Text.blocks text).zipIdx.filterMap refusal? := by
  rw [load, readBlocks_eq]
  exact ⟨rfl, rfl⟩

/-- The blocks of a text are its runs of lines that are not blank; each is read as a card or
reported by its number. With whatever is registered afterwards, the registry has the names in lower
case in the order in which they first came, each with the card that came last under it, and its
index is right: a name in any spelling gives that card, and any other name nothing. -/
theorem load_holds (text : String) (further : List Card) :
    (∃ parts : List (Text.Part (Text.linesOf text.toList)),
      Text.blocks text = parts.map (fun a => String.ofList (Text.joinLines a.piece)) ∧
      parts.Pairwise (fun a b => a.start < b.start) ∧ ∀ a, a ∈ parts ↔ a.IsRun) ∧
    (load text).errors = (Text.blocks text).zipIdx.filterMap refusal? ∧
    let cards :=
      (Text.blocks text).filterMap (fun block => (Grammar.parse block).toOption) ++ further
    let r := ((load text).registry.registerAll further).1
    names r.cards = (names cards).eraseDups ∧ r.Indexed ∧
      (∀ c ∈ r.cards, latest cards c.name = some c) ∧
      (∀ c ∈ r.cards, ∀ name, Text.lowerCase name = Text.lowerCase c.name →
        r.get? name = some c) ∧
      (∀ name, Text.lowerCase name ∉ names cards → r.get? name = none) ∧
      r.cards.length = (names cards).toFinset.card := by
  refine ⟨Text.blocks_eq text, (load_eq text).2, ?_⟩
  intro cards r
  have whole : r = (ofCards cards).1 := by
    simp only [r, (load_eq text).1, cards, ofCards, registerAll_append]
  have indexed : r.Indexed := whole ▸ indexed_ofCards cards
  have found (name : String) : r.get? name = latest cards name := by
    rw [whole, ofCards, get?_registerAll indexed_empty]
    exact Option.or_none
  have order : names r.cards = (names cards).eraseDups := by
    rw [whole]
    exact @names_registerAll empty indexed_empty [] rfl cards
  refine ⟨order, indexed, fun c mem => ?_, fun c mem name => indexed.get?_of_mem mem,
    fun name unknown => ?_, ?_⟩
  · rw [← found, indexed.get?_of_mem mem rfl]
  · rw [found, latest_eq_none_iff]
    exact unknown
  · calc r.cards.length = (names r.cards).length := (List.length_map _).symm
      _ = (names r.cards).toFinset.card := (List.toFinset_card_of_nodup indexed.distinct).symm
      _ = (names cards).toFinset.card := by
        congr 1
        ext name
        simp [order]

theorem load_holds_replaced :
    let text := "Oak\nSource\n\n \nBroken\n\nAsh {w}\nUnit - Elf\nFly\n2/1\n"
    let elf : Card := ⟨"OAK", [.generic (.number 2)], [], [.elf], [], none⟩
    let r := ((load text).registry.registerAll [elf]).1
    (load text).errors.map LoadError.block = [1] ∧ names r.cards = ["oak", "ash"] ∧
      r.get? "oAk" = some elf ∧ r.get? "Broken" = none ∧ r.cards.length = 2 := by
  intro text elf r
  obtain ⟨-, errors, order, -, -, spelled, unknown, count⟩ := load_holds text [elf]
  refine ⟨?_, order.trans (by decide +kernel),
    spelled elf (by decide +kernel) "oAk" (by decide +kernel), unknown "Broken" (by decide +kernel),
    count.trans (by decide +kernel)⟩
  rw [errors]
  decide +kernel

end CardGame.Registry
