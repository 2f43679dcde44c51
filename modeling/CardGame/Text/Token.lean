import CardGame.Amount
import CardGame.Text.Alphanumeric
import CardGame.Text.Blank
import CardGame.Text.Span

/-!
Tokens of card text: words, numbers and single punctuation marks. White space only separates them. A
word starts with an ASCII letter and runs as far as letters, digits and underscores of any script
do; a number is the longest run of ASCII digits. What fits neither is an error token, and scanning
goes on after it.
-/

namespace CardGame.Text

inductive TokenFault where
  | integerTooLarge
  | unexpected (c : Char)
deriving DecidableEq, Repr

def TokenFault.message : TokenFault → String
  | integerTooLarge => "integer too large"
  | unexpected c => "unexpected character '" ++ c.toString ++ "'"

inductive TokenKind where
  | word (w : String)
  | number (n : Amount)
  | mark (c : Char)
  | fault (f : TokenFault)
  | endOfInput
deriving DecidableEq, Repr

def TokenKind.describe : TokenKind → String
  | word w => "'" ++ w ++ "'"
  | number n => "'" ++ toString n.toInt ++ "'"
  | mark c => "'" ++ c.toString ++ "'"
  | fault f => f.message
  | endOfInput => "end of input"

structure Token where
  kind : TokenKind
  span : Span
deriving DecidableEq, Repr

def punctuation : List Char :=
  ['-', '+', ',', '\x7b', '\x7d', '/', ':', '.', '\'']

def decimalValue (digits : List Char) : Nat :=
  digits.foldl (fun n d => 10 * n + (d.toNat - '0'.toNat)) 0

def numberToken (digits : List Char) : TokenKind :=
  let n := decimalValue digits
  if n ≤ 9223372036854775807 then .number (Int64.ofNat n) else .fault .integerTooLarge

/-- The kind of the token that starts with a character, and the characters after the first that
belong to it. -/
def tokenFrom (c : Char) (rest : List Char) : TokenKind × List Char :=
  if c.isAlpha then
    let tail := rest.takeWhile isWordCharacter
    (.word (String.ofList (c :: tail)), tail)
  else if c.isDigit then
    let tail := rest.takeWhile Char.isDigit
    (numberToken (c :: tail), tail)
  else if c ∈ punctuation then
    (.mark c, [])
  else
    (.fault (.unexpected c), [])

/-- The tokens of characters that start at a byte offset; the last one is the end of input. -/
def tokensFrom (offset : Nat) : List Char → List Token
  | [] => [⟨.endOfInput, ⟨offset, offset⟩⟩]
  | c :: rest =>
    if isBlank c then
      tokensFrom (offset + c.utf8Size) rest
    else
      let (kind, tail) := tokenFrom c rest
      let stop := offset + c.utf8Size + byteSize tail
      ⟨kind, ⟨offset, stop⟩⟩ :: tokensFrom stop (rest.drop tail.length)
termination_by cs => cs.length
decreasing_by
  · simp
  · simp only [List.length_drop, List.length_cons]
    omega

def tokens (text : String) : List Token :=
  tokensFrom 0 text.toList

theorem tokenFrom_isPrefix (c : Char) (rest : List Char) :
    (tokenFrom c rest).2 <+: rest := by
  unfold tokenFrom
  split
  · exact List.takeWhile_prefix _
  · split
    · exact List.takeWhile_prefix _
    · split <;> exact List.nil_prefix

theorem tokensFrom_ne_nil (offset : Nat) (cs : List Char) : tokensFrom offset cs ≠ [] := by
  fun_induction tokensFrom offset cs <;> simp_all

end CardGame.Text
