import CardGame.Proofs.RoundTrip

/-!
The source that the grammar reads, line by line. Small letters depend on their neighbours and names
are replaced as whole words, but neither looks past the end of a line: the source of a text is that
of its first lines, a line end, and that of the others, and so are its tokens.
-/

namespace CardGame.Text

/-! ### Small letters -/

theorem meetsLetter_append_newline (cs rest : List Char) :
    meetsLetter (cs ++ '\n' :: rest) = meetsLetter cs := by
  have stops : caseIgnorable.contains '\n' = false := by decide
  induction cs with
  | nil => simp [meetsLetter, stops, show cased.contains '\n' = false by decide]
  | cons c cs ih =>
    by_cases ignored : caseIgnorable.contains c
    · simpa [meetsLetter, ignored] using ih
    · simp [meetsLetter, ignored]

theorem lowerAfter_newline (before earlier cs : List Char) :
    lowerAfter (before ++ '\n' :: earlier) cs = lowerAfter before cs := by
  induction cs generalizing before with
  | nil => rfl
  | cons c cs ih =>
    rw [lowerAfter, lowerAfter, meetsLetter_append_newline, ← List.cons_append, ih]

theorem lowerAfter_append_newline (before cs rest : List Char) :
    lowerAfter before (cs ++ '\n' :: rest) = lowerAfter before cs ++ '\n' ::
      lowerAfter [] rest := by
  induction cs generalizing before with
  | nil => exact congrArg ('\n' :: ·) (lowerAfter_newline [] before rest)
  | cons c cs ih =>
    rw [List.cons_append, lowerAfter, lowerAfter, meetsLetter_append_newline, ih, List.append_assoc]

theorem lowerCase_append_newline (a b : String) :
    (lowerCase (a ++ "\n" ++ b)).toList =
      (lowerCase a).toList ++ '\n' :: (lowerCase b).toList := by
  simp [lowerCase, lowerAfter_append_newline]

theorem capitalsBeyondAscii_above {run : CapitalRun} (h : run ∈ capitalsBeyondAscii) :
    'Z'.toNat < run.first + run.offset := by
  revert run
  decide +kernel

theorem toLower_ascii : ∀ n < 0x80, (Char.ofNat n).toLower.toNat ≤ 'Z'.toNat →
    (Char.ofNat n).toLower = Char.ofNat n ∧ (Char.ofNat n).isUpper = false := by
  decide +kernel

theorem toNat_ofNat (n : Nat) : (Char.ofNat n).toNat = n ∨ (Char.ofNat n).toNat = 0 := by
  by_cases valid : n.isValidChar
  · exact .inl (by rw [Char.ofNat, dif_pos valid]; rfl)
  · exact .inr (by rw [Char.ofNat, dif_neg valid]; rfl)

theorem eq_of_mem_lowerChar {c d : Char} (h : d ∈ lowerChar c) (low : d.toNat ≤ 'Z'.toNat)
    (some : d.toNat ≠ 0) : d = c ∧ d.isUpper = false := by
  unfold lowerChar at h
  split at h
  · rename_i ascii
    obtain rfl := List.mem_singleton.1 h
    obtain ⟨same, small⟩ := toLower_ascii c.toNat ascii (by rwa [Char.ofNat_toNat])
    rw [Char.ofNat_toNat] at same small
    exact ⟨same, same.symm ▸ small⟩
  · rename_i beyond
    have bound : 'Z'.toNat < 0x80 := by decide
    split at h
    · obtain rfl | rfl : d = 'i' ∨ d = '\u0307' := by simpa using h
      · exact absurd low (by decide)
      · exact absurd low (by decide)
    · split at h
      · rename_i n found
        obtain rfl := List.mem_singleton.1 h
        obtain ⟨run, listed, small⟩ := List.exists_of_findSome?_eq_some found
        have above := capitalsBeyondAscii_above listed
        have large : 'Z'.toNat < n := by
          unfold CapitalRun.lower? at small
          split at small
          · cases small; omega
          · cases small
        obtain valid | invalid := toNat_ofNat n <;> omega
      · obtain rfl := List.mem_singleton.1 h
        omega

theorem newline_notMem_lowerChar {c : Char} (h : c ≠ '\n') : '\n' ∉ lowerChar c :=
  fun mem => h (eq_of_mem_lowerChar mem (by decide) (by decide)).1.symm

theorem mem_lowerAfter {before cs : List Char} {d : Char} (h : d ∈ lowerAfter before cs) :
    d = 'σ' ∨ d = 'ς' ∨ ∃ c ∈ cs, d ∈ lowerChar c := by
  induction cs generalizing before with
  | nil => cases h
  | cons c cs ih =>
    rw [lowerAfter, List.mem_append] at h
    obtain own | later := h
    · split at own
      · split at own
        · exact .inr (.inl (List.mem_singleton.1 own))
        · exact .inl (List.mem_singleton.1 own)
      · exact .inr (.inr ⟨c, List.mem_cons_self, own⟩)
    · obtain sigma | sigma | ⟨c', mem, written⟩ := ih later
      · exact .inl sigma
      · exact .inr (.inl sigma)
      · exact .inr (.inr ⟨c', List.mem_cons_of_mem c mem, written⟩)

theorem mem_lowerCase {s : String} {d : Char} (h : d ∈ (lowerCase s).toList) :
    d = 'σ' ∨ d = 'ς' ∨ ∃ c ∈ s.toList, d ∈ lowerChar c := by
  rw [lowerCase, String.toList_ofList] at h
  exact mem_lowerAfter h

theorem newline_notMem_lowerCase {s : String} (h : '\n' ∉ s.toList) :
    '\n' ∉ (lowerCase s).toList := by
  intro mem
  obtain sigma | sigma | ⟨c, mem, written⟩ := mem_lowerCase mem
  · exact absurd sigma (by decide)
  · exact absurd sigma (by decide)
  · exact newline_notMem_lowerChar (fun same => h (same ▸ mem)) written

theorem capital_notMem_lowerCase {d : Char} (capital : d.isUpper) (s : String) :
    d ∉ (lowerCase s).toList := by
  intro mem
  have range : 'A'.toNat ≤ d.toNat ∧ d.toNat ≤ 'Z'.toNat := by
    have codes : 'A'.val ≤ d.val ∧ d.val ≤ 'Z'.val := of_decide_eq_true capital
    exact codes.imp UInt32.le_iff_toNat_le.1 UInt32.le_iff_toNat_le.1
  obtain rfl | rfl | ⟨c, -, written⟩ := mem_lowerCase mem
  · exact absurd capital (by decide)
  · exact absurd capital (by decide)
  · have positive : 0 < 'A'.toNat := by decide
    have small := (eq_of_mem_lowerChar written range.2 (by omega)).2
    rw [small] at capital
    cases capital

end CardGame.Text

namespace CardGame.Grammar

open Text (TokenKind)

/-! ### Names -/

theorem dropBeginning?_append_newline {beginning : List Char} (line : '\n' ∉ beginning)
    (cs rest : List Char) :
    dropBeginning? beginning (cs ++ '\n' :: rest) =
      (dropBeginning? beginning cs).map (· ++ '\n' :: rest) := by
  induction beginning generalizing cs with
  | nil => simp [dropBeginning?]
  | cons b bs ih =>
    obtain ⟨first, others⟩ := not_or.1 (List.mem_cons.not.1 line)
    cases cs with
    | nil => simp [dropBeginning?, Ne.symm first]
    | cons c cs =>
      rw [List.cons_append, dropBeginning?, dropBeginning?, ih others]
      split <;> rfl

theorem isBoundary_append_newline (cs rest : List Char) :
    isBoundary (cs ++ '\n' :: rest).head? = isBoundary cs.head? := by
  cases cs with
  | nil => exact (by decide : isBoundary (some '\n') = isBoundary none)
  | cons => rfl

section

variable {first : Char} {others : List Char} (placeholder : List Char)

theorem replaceName_of_found {c : Char} {cs rest : List Char} (before : Option Char)
    (found : dropBeginning? (first :: others) (c :: cs) = some rest) :
    replaceName first others placeholder before (c :: cs) =
      (if isBoundary before && isBoundary rest.head? then placeholder else first :: others)
        ++ replaceName first others placeholder none rest := by
  rw [replaceName]
  split <;> simp_all

theorem replaceName_of_missed {c : Char} {cs : List Char} (before : Option Char)
    (missed : dropBeginning? (first :: others) (c :: cs) = none) :
    replaceName first others placeholder before (c :: cs) =
      c :: replaceName first others placeholder (some c) cs := by
  rw [replaceName]
  split <;> simp_all

/-- At the beginning of a line the name is looked for as at the beginning of a text. -/
theorem replaceName_after_newline (cs : List Char) :
    replaceName first others placeholder (some '\n') cs =
      replaceName first others placeholder none cs := by
  have same : isBoundary (some '\n') = isBoundary none := by decide
  cases cs with
  | nil => simp [replaceName]
  | cons c cs => unfold replaceName; rw [same]

theorem replaceName_append_newline (line : '\n' ∉ first :: others) (before : Option Char)
    (cs rest : List Char) :
    replaceName first others placeholder before (cs ++ '\n' :: rest) =
      replaceName first others placeholder before cs
        ++ '\n' :: replaceName first others placeholder none rest := by
  fun_induction replaceName first others placeholder before cs with
  | case1 before =>
    have missed := dropBeginning?_append_newline line [] rest
    rw [List.nil_append, replaceName_of_missed placeholder before missed,
      replaceName_after_newline]
    rfl
  | case2 before c cs later found ih =>
    have still := dropBeginning?_append_newline line (c :: cs) rest
    rw [found, Option.map_some, List.cons_append] at still
    rw [List.cons_append, replaceName_of_found placeholder before still, isBoundary_append_newline,
      ih, List.append_assoc]
  | case3 before c cs missed ih =>
    have still := dropBeginning?_append_newline line (c :: cs) rest
    rw [missed, Option.map_none, List.cons_append] at still
    rw [List.cons_append, replaceName_of_missed placeholder before still, ih, List.cons_append]

end

theorem sourceOf_append_newline {name : String} (line : '\n' ∉ name.toList) (a b : String) :
    sourceOf (a ++ "\n" ++ b) name = sourceOf a name ++ '\n' :: sourceOf b name := by
  have lowered := Text.newline_notMem_lowerCase line
  unfold sourceOf
  rw [Text.lowerCase_append_newline]
  cases own : (Text.lowerCase name).toList with
  | nil => rfl
  | cons first others =>
    rw [own] at lowered
    exact replaceName_append_newline _ lowered _ _ _

theorem kindsOf_sourceOf_append_newline {name : String} (line : '\n' ∉ name.toList)
    (a b : String) :
    Text.kindsOf (sourceOf (a ++ "\n" ++ b) name) =
      Text.kindsOf (sourceOf a name) ++ Text.kindsOf (sourceOf b name) := by
  have apart : Text.opensApart ('\n' :: sourceOf b name) := by
    simp [Text.opensApart, show Text.isWordCharacter '\n' = false by decide]
  rw [sourceOf_append_newline line, Text.kindsOf_append _ apart,
    Text.kindsOf_cons_apart (by decide)]
  rfl

theorem sourceKinds_append_newline {name : String} (line : '\n' ∉ name.toList) (a b : String) :
    sourceKinds (a ++ "\n" ++ b) name = Text.kindsOf (sourceOf a name) ++ sourceKinds b name := by
  rw [sourceKinds, kindsOf_sourceOf_append_newline line, List.append_assoc]
  rfl

theorem nameOf_append_newline {first : List Char} (line : '\n' ∉ first) (rest other : List Char) :
    nameOf (first ++ '\n' :: rest) = nameOf (first ++ '\n' :: other) := by
  rw [nameOf, nameOf, headLine_append line, headLine_append line]

end CardGame.Grammar
