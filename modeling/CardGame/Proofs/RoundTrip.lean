import CardGame.Proofs.Yield
import Mathlib.Data.List.DropRight

/-!
The round trip of card texts. What a text was read as is printed, and the printed text is read
again. The name is found again in any printed text; the rest is read back where the parts of every
ability are clear and the name stands only for itself, exactly if the type line ends before the
abilities.
-/

namespace CardGame.Text

/-! ### Names -/

theorem newline_notMem_firstLine (cs : List Char) : '\n' ∉ (firstLine cs).1 := by
  induction cs with
  | nil => simp [firstLine]
  | cons c cs ih =>
    by_cases newline : c = '\n'
    · subst newline
      simp [firstLine]
    · rw [firstLine]
      · simpa [Ne.symm newline] using ih
      · exact newline

theorem firstLine_append {line : List Char} (noNewline : '\n' ∉ line) (rest : List Char) :
    firstLine (line ++ '\n' :: rest) = (line, some rest) := by
  induction line with
  | nil => rfl
  | cons c line ih =>
    obtain ⟨first, others⟩ := not_or.1 (List.mem_cons.not.1 noNewline)
    rw [List.cons_append, firstLine, ih others]
    exact fun h => first h.symm

theorem trimBlanks_eq (cs : List Char) :
    trimBlanks cs = (cs.dropWhile isBlank).rdropWhile isBlank := rfl

theorem subset_of_trimBlanks (cs : List Char) : trimBlanks cs ⊆ cs := by
  rw [trimBlanks_eq]
  exact List.Subset.trans (List.rdropWhile_prefix isBlank _).subset
    (List.dropWhile_suffix isBlank).subset

theorem head?_trimBlanks (cs : List Char) : (trimBlanks cs).head?.any isBlank = false := by
  have first := List.head?_dropWhile_not isBlank cs
  obtain ⟨rest, split⟩ : trimBlanks cs <+: cs.dropWhile isBlank :=
    List.rdropWhile_prefix isBlank _
  rw [← split] at first
  cases trimmed : trimBlanks cs with
  | nil => rfl
  | cons c others => simpa [trimmed] using first

theorem getLast?_trimBlanks (cs : List Char) : (trimBlanks cs).getLast?.any isBlank = false := by
  rw [trimBlanks_eq, List.rdropWhile, List.getLast?_reverse]
  have last := List.head?_dropWhile_not isBlank (cs.dropWhile isBlank).reverse
  split at last
  · rename_i c head
    simpa [head] using last
  · rename_i head
    simp [head]

theorem trimBlanks_eq_self {cs : List Char} (first : cs.head?.any isBlank = false)
    (last : cs.getLast?.any isBlank = false) : trimBlanks cs = cs := by
  have front : cs.dropWhile isBlank = cs := by
    cases cs with
    | nil => rfl
    | cons c rest => exact List.dropWhile_cons_of_neg (by simpa using first)
  rw [trimBlanks_eq, front, List.rdropWhile_eq_self_iff]
  intro nonempty
  simpa [List.getLast?_eq_some_getLast nonempty] using last

theorem trimBlanks_concat {cs : List Char} (nonempty : cs ≠ [])
    (first : cs.head?.any isBlank = false) (last : cs.getLast?.any isBlank = false) {c : Char}
    (blank : isBlank c) : trimBlanks (cs ++ [c]) = cs := by
  obtain ⟨d, rest, rfl⟩ := List.exists_cons_of_ne_nil nonempty
  have kept := trimBlanks_eq_self first last
  have front : isBlank d ≠ true := by simpa using first
  rw [trimBlanks_eq, List.dropWhile_cons_of_neg front] at kept
  rw [trimBlanks_eq, List.cons_append, List.dropWhile_cons_of_neg front, ← List.cons_append,
    List.rdropWhile_concat_pos _ _ _ blank, kept]

end CardGame.Text

namespace CardGame.Grammar

/-- A name as the first line of a card holds it: not empty, without blanks around it, and before the
first brace and the end of the line. -/
structure IsName (name : List Char) : Prop where
  nonempty : name ≠ []
  first : name.head?.any Text.isBlank = false
  last : name.getLast?.any Text.isBlank = false
  line : '\n' ∉ name
  brace : '\x7b' ∉ name

theorem newline_notMem_headLine (text : List Char) : '\n' ∉ headLine text := by
  have noNewline := Text.newline_notMem_firstLine text
  unfold headLine Text.linesOf
  split
  · rename_i line rest split
    rw [split] at noNewline
    intro mem
    refine noNewline ?_
    rw [List.head?_cons, Option.getD_some, Text.dropReturn] at mem
    split at mem
    · exact List.dropLast_subset _ mem
    · exact mem
  · simp
  · rename_i line other split
    rw [split] at noNewline
    exact noNewline

theorem isName_nameOf {text : List Char} (h : nameOf text ≠ []) : IsName (nameOf text) where
  nonempty := h
  first := Text.head?_trimBlanks _
  last := Text.getLast?_trimBlanks _
  line mem := newline_notMem_headLine text
    ((List.takeWhile_prefix _).subset (Text.subset_of_trimBlanks _ mem))
  brace mem := by
    have before := List.mem_takeWhile_imp (Text.subset_of_trimBlanks _ mem)
    simp at before

theorem headLine_append {line : List Char} (noNewline : '\n' ∉ line) (rest : List Char) :
    headLine (line ++ '\n' :: rest) = Text.dropReturn line := by
  rw [headLine, Text.linesOf]
  split
  · rename_i own others split
    rw [Text.firstLine_append noNewline] at split
    rw [(Prod.mk.inj split).1]
    rfl
  · rename_i split
    rw [Text.firstLine_append noNewline] at split
    cases (Prod.mk.inj split).2
  · rename_i split
    rw [Text.firstLine_append noNewline] at split
    cases (Prod.mk.inj split).2

theorem takeWhile_name {name : List Char} (brace : '\x7b' ∉ name) (rest : List Char) :
    (name ++ rest).takeWhile (· != '\x7b') = name ++ rest.takeWhile (· != '\x7b') :=
  List.takeWhile_append_of_pos fun c mem => by
    simp only [bne_iff_ne]
    rintro rfl
    exact brace mem

theorem IsName.nameOf_line {name : List Char} (h : IsName name) (rest : List Char) :
    nameOf (name ++ '\n' :: rest) = name := by
  have kept : Text.dropReturn name = name := by
    refine if_neg fun last => ?_
    have notBlank := h.last
    rw [last] at notBlank
    cases notBlank
  have all := takeWhile_name h.brace []
  rw [List.takeWhile_nil, List.append_nil] at all
  rw [nameOf, headLine_append h.line, kept, all, Text.trimBlanks_eq_self h.first h.last]

theorem IsName.nameOf_costs {name costs : List Char} (h : IsName name) (noNewline : '\n' ∉ costs)
    (rest : List Char) : nameOf (name ++ ' ' :: '\x7b' :: costs ++ '\n' :: rest) = name := by
  have line : '\n' ∉ name ++ ' ' :: '\x7b' :: costs := by simp [h.line, noNewline]
  have before : (Text.dropReturn (name ++ ' ' :: '\x7b' :: costs)).takeWhile (· != '\x7b') =
      name ++ [' '] := by
    unfold Text.dropReturn
    split
    · rw [List.dropLast_append_of_ne_nil (by simp), takeWhile_name h.brace]
      cases costs <;> rfl
    · rw [takeWhile_name h.brace]
      rfl
  rw [nameOf, headLine_append line, before,
    Text.trimBlanks_concat h.nonempty h.first h.last (by decide)]

end CardGame.Grammar

namespace CardGame

open Grammar (IsName nameOf)

theorem Quantity.newline_notMem_text {q : Quantity} (h : q.Printable) : '\n' ∉ q.text.toList := by
  cases q with
  | number n =>
    obtain ⟨m, value⟩ := Int.eq_ofNat_of_zero_le h
    have digits : (toString n.toInt).toList = Nat.toDigits 10 m := by
      rw [value]
      show (toString m).toList = _
      rw [Nat.toString_eq_ofList_toDigits, String.toList_ofList]
    show '\n' ∉ (toString n.toInt).toList
    rw [digits]
    intro mem
    have digit := Nat.isDigit_of_mem_toDigits (by decide) (by decide) mem
    cases digit
  | one => decide
  | x => decide

theorem CostSymbol.newline_notMem_text {s : CostSymbol} (h : s.Printable) :
    '\n' ∉ s.text.toList := by
  cases s with
  | essence e => cases e <;> decide
  | activate => decide
  | deactivate => decide
  | generic q =>
    show '\n' ∉ ("\x7b" ++ q.text ++ "\x7d").toList
    simp [q.newline_notMem_text h]

theorem Text.newline_notMem_join (items : List String) (h : ∀ s ∈ items, '\n' ∉ s.toList) :
    '\n' ∉ (Text.join "" items).toList := by
  induction items with
  | nil => decide
  | cons a rest ih =>
    have later := ih fun s mem => h s (List.mem_cons_of_mem a mem)
    cases rest with
    | nil => exact h a List.mem_cons_self
    | cons b rest =>
      rw [join, String.append_empty, String.toList_append]
      · exact fun mem => (List.mem_append.1 mem).elim (h a List.mem_cons_self) later
      · simp

theorem CostSymbol.toList_join_text (s : CostSymbol) (others : List CostSymbol) :
    ∃ rest, (Text.join "" ((s :: others).map text)).toList = '\x7b' :: rest := by
  have brace (s : CostSymbol) : ∃ inner, s.text.toList = '\x7b' :: inner :=
    ⟨_, by unfold text; rw [String.toList_append, String.toList_append]; rfl⟩
  obtain ⟨inner, own⟩ := brace s
  cases others with
  | nil => exact ⟨inner, own⟩
  | cons d others =>
    rw [List.map_cons, List.map_cons, Text.join, String.append_empty, String.toList_append, own]
    · exact ⟨_, rfl⟩
    · simp

namespace Card

theorem toList_text (c : Card) : ∃ rest, c.text.toList = c.headText.toList ++ '\n' :: rest := by
  have newline : "\n".toList = ['\n'] := rfl
  rw [text_eq, List.cons_append, List.cons_append, List.cons_append, Text.join,
    String.toList_append, String.toList_append, List.append_assoc, newline, List.singleton_append]
  · exact ⟨_, rfl⟩
  · simp

theorem nameOf_text {c : Card} (name : IsName c.name.toList) (costs : ∀ s ∈ c.costs, s.Printable) :
    nameOf c.text.toList = c.name.toList := by
  obtain ⟨rest, text⟩ := c.toList_text
  rw [text]
  cases symbols : c.costs with
  | nil =>
    have head : c.headText.toList = c.name.toList := by simp [headText, symbols]
    rw [head, name.nameOf_line]
  | cons s others =>
    have noNewline := Text.newline_notMem_join (c.costs.map CostSymbol.text) (by
      intro t mem
      obtain ⟨s, listed, rfl⟩ := List.mem_map.1 mem
      exact s.newline_notMem_text (costs s listed))
    obtain ⟨inside, row⟩ := CostSymbol.toList_join_text s others
    rw [symbols, row] at noNewline
    have head : c.headText.toList = c.name.toList ++ ' ' :: '\x7b' :: inside := by
      rw [headText, symbols]
      simp only [List.isEmpty_cons, Bool.false_eq_true, if_false, String.toList_append, row]
      rfl
    rw [head, name.nameOf_costs fun mem => noNewline (List.mem_cons_of_mem _ mem)]

end Card

end CardGame

namespace CardGame.Card

open Grammar

/-- Whether the name stands in the printed text only where the card names itself: with the
placeholder for it, the text is what the card under the placeholder prints. -/
def namesItself (c : Card) : Bool :=
  sourceOf c.text c.name == c.anonymous.text.toList

theorem Printable.of_parse {text : String} {c : Card} (parsed : parse text = .ok c) :
    c.Printable := by
  obtain ⟨-, -, own, rest, read, rfl⟩ := parse_eq_ok_iff.1 parsed
  have unsigned : Unsigned (sourceKinds text (String.ofList (nameOf text.toList))) := by
    intro n mem
    obtain mem | mem := List.mem_append.1 mem
    · exact Text.nonnegative_of_mem_scan mem
    · simp at mem
  have own := yields_card.holds unsigned read
  exact ⟨own.costs, own.kinds, own.abilities, own.stats⟩

theorem isName_of_parse {text : String} {c : Card} (parsed : parse text = .ok c) :
    IsName c.name.toList := by
  obtain ⟨nonempty, -, own, rest, -, rfl⟩ := parse_eq_ok_iff.1 parsed
  rw [String.toList_ofList]
  exact isName_nameOf nonempty

theorem sourceKinds_text {c : Card} (printable : c.Printable) (named : c.namesItself) :
    sourceKinds c.text c.name = c.spelled ++ [.endOfInput] := by
  rw [sourceKinds, eq_of_beq named, ← kinds_text printable]
  rfl

/-- Printed cards are read back exactly when the type line ends before the abilities. -/
theorem parse_text_iff {text : String} {c : Card} (parsed : parse text = .ok c) (clear : c.isClear)
    (named : c.namesItself) : parse c.text = .ok c ↔ c.lineEnds := by
  have printable := Printable.of_parse parsed
  have name := isName_of_parse parsed
  rw [parse_eq_ok_iff, nameOf_text name printable.costs, String.ofList_toList,
    sourceKinds_text printable named]
  constructor
  · rintro ⟨-, -, own, rest, read, same⟩
    by_contra goesOn
    refine kinds_ne_of_reads_card printable (Bool.eq_false_iff.2 goesOn) read ?_
    rw [same]
  · intro ends
    have read := reads_card printable clear ends
    refine ⟨name.nonempty, ?_, c.anonymous, _, read, rfl⟩
    obtain ⟨own, split, content⟩ := Parser.reads_between read
    rw [split]
    intro k mem
    obtain mem | mem := List.mem_append.1 mem
    · exact (content k mem).2
    · rintro f rfl
      simp at mem

/-- A spell that blesses units, whose type line may end with subtypes. -/
def bless (subtypes : List CardSubtype) : Card where
  name := "Bless"
  costs := [.essence .wand]
  kinds := [⟨.spell, false⟩]
  subtypes := subtypes
  abilities := [.composed ⟨[.card (some [.filter ⟨none, [.kind ⟨.unit, false⟩], none, none, []⟩])
    [.gets .plus (.number 1) .plus (.number 1)]]⟩]
  stats := none

/-- Without its article, the subject of the ability is read as one more kind, unless subtypes stand
in between. -/
theorem parse_text_bless :
    parse "Bless \x7bw\x7d\nSpell\nA unit gets +1/+1." = .ok (bless []) ∧
      parse (bless []).text ≠ .ok (bless []) ∧
      parse "Bless \x7bw\x7d\nSpell - Elf\nA unit gets +1/+1." = .ok (bless [.elf]) ∧
      parse (bless [.elf]).text = .ok (bless [.elf]) := by
  have plain : parse "Bless \x7bw\x7d\nSpell\nA unit gets +1/+1." = .ok (bless []) := by
    decide +kernel
  have elf : parse "Bless \x7bw\x7d\nSpell - Elf\nA unit gets +1/+1." = .ok (bless [.elf]) := by
    decide +kernel
  refine ⟨plain, fun again => ?_, elf, ?_⟩
  · have ends := (parse_text_iff plain (by decide +kernel) (by decide +kernel)).1 again
    exact absurd ends (by decide +kernel)
  · exact (parse_text_iff elf (by decide +kernel) (by decide +kernel)).2 (by decide +kernel)

end CardGame.Card
