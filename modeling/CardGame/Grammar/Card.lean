import CardGame.Card.Basic
import CardGame.Grammar.Effect
import CardGame.Text.Lines
import CardGame.Text.LowerCase

/-!
Reading a card. The name is what the first line holds before its first brace. Everything is read in
lower case, after each whole-word occurrence of the name has been replaced by a placeholder, so that
abilities may refer to their own card. Errors point at the furthest token that any alternative of
the grammar reached.
-/

namespace CardGame.Grammar

open CardGame.Grammar.Parser
open Text (Token TokenKind TokenFault Span Place)

def cardName : Parser String :=
  token [.one "name"] fun
    | .word w => some w
    | _ => none

def subtypes : Parser (List CardSubtype) := do
  if ← flag (mark '-') then
    many subtype
  else
    return []

def sentence : Parser Ability := do
  let a ← ability
  let _ ← optional (mark ',')
  return a

/-- A card as its tokens spell it, the name being the placeholder. -/
def card : Parser Card := do
  let name ← cardName
  let costs ← many costSymbol
  let kinds ← many1 kindWord
  let peoples ← subtypes
  let abilities ← many sentence
  let printed ← optional stats
  finish
  return ⟨name, costs, kinds, peoples, abilities, printed⟩

inductive ParseFault where
  | missingName
  | badToken (f : TokenFault)
  | unexpected (expected : List Expectation) (found : TokenKind)
deriving DecidableEq, Repr

namespace ParseFault

def expected : ParseFault → List String
  | unexpected es _ => es.map Expectation.describe
  | _ => []

def found : ParseFault → String
  | unexpected _ kind => kind.describe
  | _ => ""

def message : ParseFault → String
  | missingName => "missing card name"
  | badToken f => f.message
  | unexpected [] kind => "unexpected " ++ kind.describe
  | unexpected [e] kind => "expected " ++ e.describe ++ ", found " ++ kind.describe
  | unexpected es kind =>
    "expected one of " ++ Text.join ", " (es.map Expectation.describe) ++ ", found " ++
      kind.describe

end ParseFault

structure ParseError where
  fault : ParseFault
  span : Span
  place : Place
deriving DecidableEq, Repr

def ParseError.text (e : ParseError) : String :=
  s!"{e.place.line}:{e.place.column}: " ++ e.fault.message

def ParseError.at (source : List Char) (span : Span) (fault : ParseFault) : ParseError :=
  ⟨fault, span, Text.placeAt source span.start⟩

def headLine (text : List Char) : List Char :=
  ((Text.linesOf text).head?).getD []

def nameOf (text : List Char) : List Char :=
  Text.trimBlanks ((headLine text).takeWhile (· != '\x7b'))

def dropBeginning? : (beginning text : List Char) → Option (List Char)
  | [], text => some text
  | _ :: _, [] => none
  | b :: bs, c :: cs => if b = c then dropBeginning? bs cs else none

theorem dropBeginning?_eq_some_iff {beginning text rest : List Char} :
    dropBeginning? beginning text = some rest ↔ text = beginning ++ rest := by
  induction beginning generalizing text with
  | nil => simp [dropBeginning?]
  | cons b bs ih =>
    cases text with
    | nil => simp [dropBeginning?]
    | cons c cs =>
      by_cases same : b = c
      · simp [dropBeginning?, same, ih]
      · simp [dropBeginning?, same, Ne.symm same]

/-- Whether a word may not go on past this neighbour. -/
def isBoundary (neighbour : Option Char) : Bool :=
  !neighbour.any Text.isWordCharacter

/-- Replace the whole words equal to a name, given the character before the text. Occurrences are
taken from the left without overlap; after one of them, replaced or not, the search starts afresh as
if at the beginning of a text. -/
def replaceName (first : Char) (others placeholder : List Char) (before : Option Char) :
    List Char → List Char
  | [] => []
  | c :: cs =>
    match _found : dropBeginning? (first :: others) (c :: cs) with
    | some rest =>
      (if isBoundary before && isBoundary rest.head? then placeholder else first :: others)
        ++ replaceName first others placeholder none rest
    | none => c :: replaceName first others placeholder (some c) cs
termination_by text => text.length
decreasing_by
  · have := congrArg List.length (dropBeginning?_eq_some_iff.1 (by assumption))
    simp only [List.length_cons, List.length_append] at this ⊢
    omega
  · simp

/-- The text that the grammar reads: in lower case, with the placeholder for the name. -/
def sourceOf (text : String) (name : String) : List Char :=
  let lowered := (Text.lowerCase text).toList
  match (Text.lowerCase name).toList with
  | [] => lowered
  | first :: others => replaceName first others ownName.toList none lowered

def firstFault? (tokens : List Token) : Option (TokenFault × Span) :=
  tokens.findSome? fun t =>
    match t.kind with
    | .fault f => some (f, t.span)
    | _ => none

/-- The error that notes describe: what was found at the furthest token. -/
def errorAt (source : List Char) (tokens : List Token) (notes : Notes) : ParseError :=
  match tokens[notes.furthest]? with
  | some t => .at source t.span (.unexpected notes.expected t.kind)
  | none =>
    let stop := Text.byteSize source
    .at source ⟨stop, stop⟩ (.unexpected notes.expected .endOfInput)

def parse (text : String) : Except ParseError Card :=
  let name := nameOf text.toList
  if name.isEmpty then
    .error (.at text.toList ⟨0, Text.byteSize (headLine text.toList)⟩ .missingName)
  else
    let name := String.ofList name
    let source := sourceOf text name
    let tokens := Text.tokensFrom 0 source
    match firstFault? tokens with
    | some (f, span) => .error (.at source span (.badToken f))
    | none =>
      match card ⟨0, tokens⟩ .start with
      | (some (c, _), _) => .ok { c with name }
      | (none, notes) => .error (errorAt source tokens notes)

end CardGame.Grammar
