import CardGame.Text.Join
import CardGame.Text.Token
import Mathlib.Data.List.TakeWhile

/-!
The kinds of the tokens of a text, found one character after another. Where one text ends or the
next one begins with a blank or a mark, the tokens of both together are those of one followed by
those of the other.
-/

namespace CardGame.Text

def goesOn (first : Char) : Char → Bool :=
  if first.isAlpha then isWordCharacter
  else if first.isDigit then Char.isDigit
  else fun _ => false

/-- The kinds of the tokens in a text that begins inside a token, which goes on with the characters
that are skipped. -/
def scan (skips : Char → Bool) : List Char → List TokenKind
  | [] => []
  | c :: rest =>
    if skips c then scan skips rest
    else if isBlank c then scan (fun _ => false) rest
    else (tokenFrom c rest).1 :: scan (goesOn c) rest

def kindsOf (cs : List Char) : List TokenKind :=
  scan (fun _ => false) cs

theorem scan_eq_kindsOf_dropWhile (skips : Char → Bool) (cs : List Char) :
    scan skips cs = kindsOf (cs.dropWhile skips) := by
  induction cs with
  | nil => rfl
  | cons c rest ih =>
    by_cases skipped : skips c
    · rw [scan, if_pos skipped, ih, List.dropWhile_cons_of_pos skipped]
    · rw [scan, if_neg skipped, List.dropWhile_cons_of_neg skipped]
      simp [kindsOf, scan]

theorem tokenFrom_rest (c : Char) (rest : List Char) :
    (tokenFrom c rest).2 = rest.takeWhile (goesOn c) := by
  unfold tokenFrom goesOn
  split
  · rfl
  · split
    · rfl
    · split <;> cases rest <;> rfl

theorem tokenFrom_ne_endOfInput (c : Char) (rest : List Char) :
    (tokenFrom c rest).1 ≠ .endOfInput := by
  unfold tokenFrom numberToken
  grind

theorem endOfInput_notMem_scan (skips : Char → Bool) (cs : List Char) :
    .endOfInput ∉ scan skips cs := by
  induction cs generalizing skips with
  | nil => simp [scan]
  | cons c rest ih =>
    have kept := (tokenFrom_ne_endOfInput c rest).symm
    unfold scan
    split
    · exact ih skips
    · split
      · exact ih _
      · simp [kept, ih]

theorem map_kind_tokensFrom (offset : Nat) (cs : List Char) :
    (tokensFrom offset cs).map Token.kind = kindsOf cs ++ [.endOfInput] := by
  fun_induction tokensFrom offset cs with
  | case1 offset => rfl
  | case2 offset c rest blank ih => simpa [kindsOf, scan, blank] using ih
  | case3 offset c rest blank kind tail token stop ih =>
    have kind_eq : (tokenFrom c rest).1 = kind := by rw [token]
    have dropped : rest.drop tail.length = rest.dropWhile (goesOn c) := by
      have tail_eq : tail = rest.takeWhile (goesOn c) := by rw [← tokenFrom_rest, token]
      calc rest.drop tail.length
          = (rest.takeWhile (goesOn c) ++ rest.dropWhile (goesOn c)).drop tail.length := by
            rw [List.takeWhile_append_dropWhile]
        _ = rest.dropWhile (goesOn c) := by rw [tail_eq, List.drop_left]
    rw [List.map_cons, ih, dropped, kindsOf.eq_def (c :: rest), scan]
    simp [blank, kind_eq, scan_eq_kindsOf_dropWhile]

/-! ### Texts one after another -/

/-- Whether the first character can belong to no word and no number before it. -/
def opensApart (cs : List Char) : Bool :=
  cs.head?.all fun c => !isWordCharacter c

/-- Whether the last character can belong to no word and no number after it. -/
def closesApart (cs : List Char) : Bool :=
  cs.getLast?.any fun c => !isWordCharacter c

theorem isAlpha_iff_toNat {c : Char} :
    c.isAlpha ↔ 65 ≤ c.toNat ∧ c.toNat ≤ 90 ∨ 97 ≤ c.toNat ∧ c.toNat ≤ 122 := by
  show (decide (65 ≤ c.val ∧ c.val ≤ 90) || decide (97 ≤ c.val) && decide (c.val ≤ 122)) = true ↔ _
  simp [UInt32.le_iff_toNat_le]

theorem isWordCharacter_of_isAlphanum {c : Char} (h : c.isAlphanum) : isWordCharacter c := by
  have ascii : c.toNat < 0x80 := by
    obtain letter | digit := Bool.or_eq_true_iff.1 h
    · have range := isAlpha_iff_toNat.1 letter
      omega
    · have range := Char.isDigit_iff_toNat.1 digit
      have nine : '9'.toNat = 57 := rfl
      omega
  simp [isWordCharacter, isAlphanumeric_of_isAlphanum ascii h]

theorem isAlpha_of_isDigit {c : Char} (digit : c.isDigit) : c.isAlpha = false := by
  have range := Char.isDigit_iff_toNat.1 digit
  have nine : '9'.toNat = 57 := rfl
  refine Bool.eq_false_iff.2 fun letter => ?_
  have letters := isAlpha_iff_toNat.1 letter
  omega

theorem isWordCharacter_of_isAlpha {c : Char} (letter : c.isAlpha) : isWordCharacter c :=
  isWordCharacter_of_isAlphanum (by simp [Char.isAlphanum, letter])

theorem isWordCharacter_of_isDigit {c : Char} (digit : c.isDigit) : isWordCharacter c :=
  isWordCharacter_of_isAlphanum (by simp [Char.isAlphanum, digit])

def blankCodes : List Nat :=
  [0x9, 0xa, 0xb, 0xc, 0xd, 0x20, 0x85, 0xa0, 0x1680, 0x2000, 0x2001, 0x2002, 0x2003,
    0x2004, 0x2005,
   0x2006, 0x2007, 0x2008, 0x2009, 0x200a, 0x2028, 0x2029, 0x202f, 0x205f, 0x3000]

theorem toNat_mem_blankCodes {c : Char} (blank : isBlank c) : c.toNat ∈ blankCodes := by
  simp only [isBlank, CharacterSet.contains, blanks, CharacterSet.containsCode, Bool.not_false,
    Bool.and_true, Bool.and_eq_true, Bool.not_eq_true', Bool.and_eq_false_iff, decide_eq_true_eq,
    decide_eq_false_iff_not, Bool.not_eq_false'] at blank
  simp only [blankCodes, List.mem_cons, List.not_mem_nil, or_false]
  omega

theorem apart_of_isBlank {c : Char} (blank : isBlank c) :
    isWordCharacter c = false ∧ c ∉ punctuation := by
  have each : ∀ n ∈ blankCodes,
      isWordCharacter (Char.ofNat n) = false ∧ Char.ofNat n ∉ punctuation := by decide +kernel
  rw [← Char.ofNat_toNat c]
  exact each c.toNat (toNat_mem_blankCodes blank)

theorem isBlank_of_isWordCharacter {c : Char} (word : isWordCharacter c) : isBlank c = false :=
  Bool.eq_false_iff.2 fun blank => by simp [(apart_of_isBlank blank).1] at word

theorem isWordCharacter_of_goesOn {first c : Char} (h : goesOn first c) : isWordCharacter c := by
  unfold goesOn at h
  split at h
  · exact h
  · split at h
    · exact isWordCharacter_of_isDigit h
    · exact nomatch h

theorem takeWhile_append_of_opensApart {skips : Char → Bool} {cs : List Char} (rest : List Char)
    (word : ∀ c, skips c → isWordCharacter c) (apart : opensApart cs) :
    (rest ++ cs).takeWhile skips = rest.takeWhile skips := by
  induction rest with
  | nil =>
    cases cs with
    | nil => rfl
    | cons c cs =>
      have notWord : isWordCharacter c = false := by simpa [opensApart] using apart
      have notSkipped : ¬skips c := fun skipped => by simp [word c skipped] at notWord
      rw [List.nil_append, List.takeWhile_cons_of_neg notSkipped, List.takeWhile_nil]
  | cons c rest ih =>
    by_cases skipped : skips c
    · rw [List.cons_append, List.takeWhile_cons_of_pos skipped, List.takeWhile_cons_of_pos skipped,
        ih]
    · rw [List.cons_append, List.takeWhile_cons_of_neg skipped, List.takeWhile_cons_of_neg skipped]

theorem tokenFrom_append (c : Char) (rest : List Char) {cs : List Char} (apart : opensApart cs) :
    (tokenFrom c (rest ++ cs)).1 = (tokenFrom c rest).1 := by
  unfold tokenFrom
  rw [takeWhile_append_of_opensApart rest (fun _ h => h) apart,
    takeWhile_append_of_opensApart rest (fun _ => isWordCharacter_of_isDigit) apart]

theorem scan_append {skips : Char → Bool} {cs : List Char} (before : List Char)
    (word : ∀ c, skips c → isWordCharacter c) (apart : opensApart cs) :
    scan skips (before ++ cs) = scan skips before ++ kindsOf cs := by
  induction before generalizing skips with
  | nil =>
    have kept : cs.dropWhile skips = cs := by
      cases cs with
      | nil => rfl
      | cons c cs =>
        have notWord : isWordCharacter c = false := by simpa [opensApart] using apart
        exact List.dropWhile_cons_of_neg fun skipped => by simp [word c skipped] at notWord
    rw [List.nil_append, scan_eq_kindsOf_dropWhile, kept]
    rfl
  | cons c before ih =>
    rw [List.cons_append, scan, scan]
    split
    · exact ih word
    · split
      · exact ih fun _ h => nomatch h
      · rw [tokenFrom_append c before apart, ih fun _ => isWordCharacter_of_goesOn,
          List.cons_append]

theorem kindsOf_append (before : List Char) {cs : List Char} (apart : opensApart cs) :
    kindsOf (before ++ cs) = kindsOf before ++ kindsOf cs :=
  scan_append before (fun _ h => nomatch h) apart

theorem kindsOf_cons_apart {c : Char} (apart : isWordCharacter c = false) (cs : List Char) :
    kindsOf (c :: cs) = kindsOf [c] ++ kindsOf cs := by
  have notAlpha : c.isAlpha = false := Bool.eq_false_iff.2 fun h => by
    simp [isWordCharacter_of_isAlpha h] at apart
  have notDigit : c.isDigit = false := Bool.eq_false_iff.2 fun h => by
    simp [isWordCharacter_of_isDigit h] at apart
  simp only [kindsOf, scan, goesOn, tokenFrom, notAlpha, notDigit, Bool.false_eq_true, if_false]
  split <;> rfl

theorem kindsOf_append_of_closesApart {before : List Char} (apart : closesApart before)
    (cs : List Char) : kindsOf (before ++ cs) = kindsOf before ++ kindsOf cs := by
  obtain ⟨c, last, notWord⟩ : ∃ c, before.getLast? = some c ∧ isWordCharacter c = false := by
    simpa [closesApart, Option.any_eq_true] using apart
  obtain ⟨start, rfl⟩ := List.getLast?_eq_some_iff.1 last
  have opens (rest : List Char) : opensApart (c :: rest) := by simp [opensApart, notWord]
  rw [List.append_assoc, List.singleton_append, kindsOf_append start (opens cs),
    kindsOf_append start (opens []), kindsOf_cons_apart notWord cs, List.append_assoc]

def kinds (s : String) : List TokenKind :=
  kindsOf s.toList

theorem kinds_append_of_opens {s t : String} (apart : opensApart t.toList) :
    kinds (s ++ t) = kinds s ++ kinds t := by
  rw [kinds, String.toList_append, kindsOf_append _ apart]
  rfl

theorem kinds_append_of_closes {s t : String} (apart : closesApart s.toList) :
    kinds (s ++ t) = kinds s ++ kinds t := by
  rw [kinds, String.toList_append, kindsOf_append_of_closesApart apart]
  rfl

theorem closesApart_append {s t : List Char} (apart : closesApart t) : closesApart (s ++ t) := by
  obtain ⟨c, last, notWord⟩ : ∃ c, t.getLast? = some c ∧ isWordCharacter c = false := by
    simpa [closesApart, Option.any_eq_true] using apart
  simp [closesApart, List.getLast?_append, last, notWord]

theorem kinds_between {between : String} (s t : String) (opens : opensApart between.toList)
    (closes : closesApart between.toList) :
    kinds (s ++ between ++ t) = kinds s ++ (kinds between ++ kinds t) := by
  rw [kinds_append_of_closes (by rw [String.toList_append]; exact closesApart_append closes),
    kinds_append_of_opens opens, List.append_assoc]

/-! ### Lists in running text -/

def separated (separator : List TokenKind) : List (List TokenKind) → List TokenKind
  | [] => []
  | a :: rest => a ++ rest.flatMap (separator ++ ·)

theorem separated_nil (items : List (List TokenKind)) : separated [] items = items.flatten := by
  cases items <;> simp [separated, List.flatMap_def]

theorem kinds_join {separator : String} (opens : opensApart separator.toList)
    (closes : closesApart separator.toList) (items : List String) :
    kinds (join separator items) = separated (kinds separator) (items.map kinds) := by
  induction items with
  | nil => rfl
  | cons a rest ih =>
    cases rest with
    | nil => simp [join, separated]
    | cons b rest =>
      rw [join, kinds_between a _ opens closes, ih]
      · simp [separated]
      · exact nofun

theorem kinds_join_empty {items : List String} (closes : ∀ s ∈ items, closesApart s.toList) :
    kinds (join "" items) = items.flatMap kinds := by
  induction items with
  | nil => rfl
  | cons a rest ih =>
    have later := ih fun s mem => closes s (List.mem_cons_of_mem a mem)
    cases rest with
    | nil => simp [join]
    | cons b rest =>
      rw [join, String.append_empty, kinds_append_of_closes (closes a List.mem_cons_self), later]
      · rfl
      · exact nofun

def further (conjunction : TokenKind) : List (List TokenKind) → List TokenKind
  | [] => []
  | [a] => conjunction :: a
  | a :: rest => .mark ',' :: (a ++ further conjunction rest)

def enumerated (conjunction : TokenKind) : List (List TokenKind) → List TokenKind
  | [] => []
  | a :: rest => a ++ further conjunction rest

theorem further_cons {conjunction : TokenKind} {rest : List (List TokenKind)} (more : rest ≠ [])
    (a : List TokenKind) :
    further conjunction (a :: rest) = .mark ',' :: (a ++ further conjunction rest) := by
  cases rest with
  | nil => exact absurd rfl more
  | cons b rest => rfl

theorem kinds_enumerate {conjunction : String} (word : kinds conjunction = [.word conjunction])
    (items : List String) :
    kinds (enumerate conjunction items) = enumerated (.word conjunction) (items.map kinds) := by
  induction items with
  | nil => rfl
  | cons a rest ih =>
    match rest with
    | [] => simp [enumerate, enumerated, further]
    | [b] =>
      have blank : kinds " " = [] := by decide
      rw [enumerate, @kinds_between " " _ _ (by decide) (by decide),
        kinds_between a conjunction (by decide) (by decide), blank, word]
      simp [enumerated, further]
    | b :: c :: rest =>
      have comma : kinds ", " = [.mark ','] := by decide
      rw [enumerate, kinds_between a _ (by decide) (by decide), ih, comma]
      · simp [enumerated, further_cons]
      · exact nofun
      · exact nofun

/-! ### Numbers -/

theorem decimalValue_toDigits (n : Nat) : decimalValue (Nat.toDigits 10 n) = n := by
  rw [decimalValue, ← Nat.ofDigitChars_eq_foldl, Nat.ofDigitChars_ten_toDigits]

theorem isBlank_of_isDigit {c : Char} (h : c.isDigit) : isBlank c = false :=
  isBlank_of_isWordCharacter (isWordCharacter_of_isDigit h)

theorem kindsOf_digits {c : Char} {rest : List Char} (digits : ∀ d ∈ c :: rest, d.isDigit) :
    kindsOf (c :: rest) = [numberToken (c :: rest)] := by
  have first : c.isDigit := digits c List.mem_cons_self
  have notAlpha : c.isAlpha = false := isAlpha_of_isDigit first
  have others : ∀ d ∈ rest, d.isDigit := fun d mem => digits d (List.mem_cons_of_mem c mem)
  have all : rest.takeWhile Char.isDigit = rest := List.takeWhile_eq_self_iff.2 others
  have nothing : rest.dropWhile Char.isDigit = [] := List.dropWhile_eq_nil_iff.2 others
  have after : scan (goesOn c) rest = [] := by
    rw [scan_eq_kindsOf_dropWhile, goesOn, if_neg (by simp [notAlpha]), if_pos first, nothing]
    rfl
  simp [kindsOf, scan, isBlank_of_isDigit first, tokenFrom, notAlpha, first, all, after]

theorem kinds_toString {n : Amount} (nonnegative : 0 ≤ n.toInt) :
    kinds (toString n.toInt) = [.number n] := by
  obtain ⟨m, value⟩ := Int.eq_ofNat_of_zero_le nonnegative
  have bound : m ≤ 9223372036854775807 := by
    have high : n.toInt ≤ 9223372036854775807 := n.toInt_le
    omega
  rw [value]
  show kindsOf (toString m).toList = _
  rw [Nat.toString_eq_ofList_toDigits, String.toList_ofList]
  cases digits : Nat.toDigits 10 m with
  | nil => exact absurd digits Nat.toDigits_ne_nil
  | cons c rest =>
    rw [kindsOf_digits (by
      intro d mem
      exact Nat.isDigit_of_mem_toDigits (by decide) (by decide) (digits ▸ mem)), ← digits]
    rw [numberToken, decimalValue_toDigits]
    have same : Int64.ofNat m = n := by
      rw [← Int64.ofInt_toInt n, value]
      rfl
    simp [bound, same]

theorem numberToken_nonnegative {digits : List Char} {n : Amount}
    (h : numberToken digits = .number n) : 0 ≤ n.toInt := by
  simp only [numberToken] at h
  split at h
  · obtain rfl := TokenKind.number.inj h
    rw [Int64.toInt_ofNat_of_lt (by omega)]
    exact Int.natCast_nonneg _
  · exact nomatch h

theorem tokenFrom_nonnegative {c : Char} {rest : List Char} {n : Amount}
    (h : (tokenFrom c rest).1 = .number n) : 0 ≤ n.toInt := by
  unfold tokenFrom at h
  split at h
  · exact nomatch h
  · split at h
    · exact numberToken_nonnegative h
    · split at h <;> exact nomatch h

theorem nonnegative_of_mem_scan {skips : Char → Bool} {cs : List Char} {n : Amount}
    (h : .number n ∈ scan skips cs) : 0 ≤ n.toInt := by
  induction cs generalizing skips with
  | nil => exact nomatch h
  | cons c cs ih =>
    rw [scan] at h
    split at h
    · exact ih h
    · split at h
      · exact ih h
      · obtain same | later := List.mem_cons.1 h
        · exact tokenFrom_nonnegative same.symm
        · exact ih later

end CardGame.Text
