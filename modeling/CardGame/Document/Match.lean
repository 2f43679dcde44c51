import CardGame.Document.Basic
import CardGame.Effect.Trigger

/-!
Symbols, matches and triggers as documents.
-/

namespace CardGame.Form

open Document (tagged)

def capitalized (w : String) : String :=
  match w.toList with
  | [] => ""
  | c :: rest => String.ofList (c.toUpper :: rest)

def quantity : Form Quantity where
  write
    | .number n => tagged "Number" (amount.write n)
    | .one => .text "A"
    | .x => .text "X"
  read d := do
    match ← d.variant? with
    | ("Number", d) => (amount.read d).map .number
    | ("A", .null) => some .one
    | ("X", .null) => some .x
    | _ => none

def essence : Form Essence :=
  enumeration (capitalized ·.word) Essence.all

def color : Form Color :=
  enumeration (capitalized ·.word) Color.all

def costSymbol : Form CostSymbol where
  write
    | .essence e => tagged "Essence" (essence.write e)
    | .activate => .text "Activate"
    | .deactivate => .text "Deactivate"
    | .generic q => tagged "Generic" (quantity.write q)
  read d := do
    match ← d.variant? with
    | ("Essence", d) => (essence.read d).map .essence
    | ("Activate", .null) => some .activate
    | ("Deactivate", .null) => some .deactivate
    | ("Generic", d) => (quantity.read d).map .generic
    | _ => none

def cardKind : Form CardKind :=
  enumeration (capitalized ·.word) CardKind.all

def kindWord : Form KindWord where
  write k := .record [("kind", cardKind.write k.kind), ("plural", bool.write k.plural)]
  read d := do
    let fs ← d.fields? ["kind", "plural"]
    return ⟨← cardKind.field "kind" fs, ← bool.field "plural" fs⟩

def subtype : Form CardSubtype :=
  enumeration (capitalized ·.word) CardSubtype.all

def keyword : Form Keyword :=
  enumeration (capitalized ·.word) Keyword.all

def stats : Form Stats where
  write s := .record [("power", quantity.write s.power), ("health", quantity.write s.health)]
  read d := do
    let fs ← d.fields? ["power", "health"]
    return ⟨← quantity.field "power" fs, ← quantity.field "health" fs⟩

def selector : Form Selector :=
  named [("Sacrificed", .sacrificed), ("Target", .target)]

def stat : Form Stat :=
  named [("Damage", .damage), ("Health", .health)]

def direction : Form Direction :=
  named [("Greater", .greater), ("Less", .less)]

def trait : Form Trait where
  write
    | .color c => tagged "Color" (color.write c)
    | .nonColor c => tagged "NonColor" (color.write c)
    | .kind k => tagged "Type" (kindWord.write k)
    | .nonKind k => tagged "NonType" (kindWord.write k)
    | .activated => .text "Activated"
    | .deactivated => .text "Deactivated"
    | .stats s => tagged "Stats" (stats.write s)
  read d := do
    match ← d.variant? with
    | ("Color", d) => (color.read d).map .color
    | ("NonColor", d) => (color.read d).map .nonColor
    | ("Type", d) => (kindWord.read d).map .kind
    | ("NonType", d) => (kindWord.read d).map .nonKind
    | ("Activated", .null) => some .activated
    | ("Deactivated", .null) => some .deactivated
    | ("Stats", d) => (stats.read d).map .stats
    | _ => none

mutual

def writeAlternative : Alternative → Document
  | .named => .text "Named"
  | .this => .text "This"
  | .filter f => tagged "Filter" (writeFilter f)

def writeFilter : CardFilter → Document
  | ⟨chosen, traits, without, has, targeting⟩ =>
    .record [("selector", selector.option.write chosen), ("prefixes", (list trait).write traits),
      ("without", keyword.option.write without),
      ("with", match has with
        | none => .null
        | some h => writeHaving h),
      ("targets", .list (writeMatches targeting))]

def writeHaving : Having → Document
  | .keywords ks => tagged "Keywords" ((list keyword).write ks)
  | .comparison s c =>
    tagged "Compare" (.record [("numerical", stat.write s), ("compare", writeComparison c)])

def writeComparison : Comparison → Document
  | ⟨lead, n, trail⟩ =>
    .record [("prefix", direction.option.write lead), ("count", writeCount n),
      ("suffix", direction.option.write trail)]

def writeCount : Count → Document
  | .numberOf m => tagged "NumberOf" (.list (writeAlternatives m))
  | .attribute m s =>
    tagged "Attribute" (.record [("owner", .list (writeAlternatives m)),
      ("numerical", stat.write s)])
  | .value q => tagged "Value" (quantity.write q)

def writeAlternatives : List Alternative → List Document
  | [] => []
  | a :: rest => writeAlternative a :: writeAlternatives rest

def writeMatches : List (List Alternative) → List Document
  | [] => []
  | m :: rest => .list (writeAlternatives m) :: writeMatches rest

end

def readCount (inner : Document → Option CardMatch) (d : Document) : Option Count := do
  match ← d.variant? with
  | ("NumberOf", d) => (inner d).map .numberOf
  | ("Attribute", .record fs) =>
    return .attribute (← inner (← fs.lookup "owner")) (← stat.field "numerical" fs)
  | ("Value", d) => (quantity.read d).map .value
  | _ => none

def readComparison (inner : Document → Option CardMatch) (d : Document) : Option Comparison := do
  let fs ← d.fields? ["prefix", "count", "suffix"]
  return ⟨← direction.optionalField "prefix" fs, ← readCount inner (← fs.lookup "count"),
    ← direction.optionalField "suffix" fs⟩

def readHaving (inner : Document → Option CardMatch) (d : Document) : Option Having := do
  match ← d.variant? with
  | ("Keywords", d) => ((list keyword).read d).map .keywords
  | ("Compare", .record fs) =>
    return .comparison (← stat.field "numerical" fs)
      (← readComparison inner (← fs.lookup "compare"))
  | _ => none

def readFilter (inner : Document → Option CardMatch) (d : Document) : Option CardFilter := do
  let fs ← d.fields? ["selector", "prefixes", "without", "with", "targets"]
  let has ← match fs.lookup "with" with
    | none => some none
    | some .null => some none
    | some h => (readHaving inner h).map some
  let targeting ← match fs.lookup "targets" with
    | some (.list ms) => ms.mapM inner
    | _ => none
  return ⟨← selector.optionalField "selector" fs, ← (list trait).field "prefixes" fs,
    ← keyword.optionalField "without" fs, has, targeting⟩

def readAlternative (inner : Document → Option CardMatch) (d : Document) : Option Alternative := do
  match ← d.variant? with
  | ("Named", .null) => some .named
  | ("This", .null) => some .this
  | ("Filter", d) => (readFilter inner d).map .filter
  | _ => none

def readMatchWithin : (depth : Nat) → Document → Option CardMatch
  | depth + 1, .list items => items.mapM (readAlternative (readMatchWithin depth))
  | _, _ => none

def maxDocumentDepth : Nat := 4096

def cardMatch : Form CardMatch where
  write m := .list (writeAlternatives m)
  read := readMatchWithin maxDocumentDepth

def comparison : Form Comparison where
  write := writeComparison
  read := readComparison cardMatch.read

def playerMatch : Form PlayerMatch :=
  list (named [("Each", .each), ("You", .you), ("Opponent", .opponent),
    ("Controller", .controller)])

def anyMatch : Form AnyMatch where
  write
    | .player m => tagged "Player" (playerMatch.write m)
    | .card m => tagged "Card" (cardMatch.write m)
    | .anyTarget => .text "AnyTarget"
  read d := do
    match ← d.variant? with
    | ("Player", d) => (playerMatch.read d).map .player
    | ("Card", d) => (cardMatch.read d).map .card
    | ("AnyTarget", .null) => some .anyTarget
    | _ => none

def zoneMatch : Form ZoneMatch :=
  list (enumeration (capitalized ·.word) Zone.all)

def playerAction : Form PlayerAction where
  write
    | .sacrifice m => tagged "Sacrifice" (cardMatch.write m)
    | .draw => .text "Draw"
  read d := do
    match ← d.variant? with
    | ("Sacrifice", d) => (cardMatch.read d).map .sacrifice
    | ("Draw", .null) => some .draw
    | _ => none

def cardAction : Form CardAction :=
  named [("EntersBoard", .entersBoard), ("LeavesBoard", .leavesBoard)]

def condition : Form Condition where
  write
    | .yourTurn => .text "YourTurn"
    | .notYourTurn => .text "NotYourTurn"
    | .player who action =>
      tagged "Player" (.record [("who", playerMatch.write who),
        ("action", playerAction.write action)])
    | .card which action =>
      tagged "Card" (.record [("which", cardMatch.write which),
        ("action", cardAction.write action)])
    | .numerical s c =>
      tagged "Numerical" (.record [("numerical", stat.write s), ("compare", comparison.write c)])
  read d := do
    match ← d.variant? with
    | ("YourTurn", .null) => some .yourTurn
    | ("NotYourTurn", .null) => some .notYourTurn
    | ("Player", .record fs) =>
      return .player (← playerMatch.field "who" fs) (← playerAction.field "action" fs)
    | ("Card", .record fs) =>
      return .card (← cardMatch.field "which" fs) (← cardAction.field "action" fs)
    | ("Numerical", .record fs) =>
      return .numerical (← stat.field "numerical" fs) (← comparison.field "compare" fs)
    | _ => none

def trigger : Form Trigger where
  write
    | .play m => tagged "Play" (cardMatch.write m)
    | .gainLife m => tagged "GainLife" (playerMatch.write m)
    | .loseLife m => tagged "LoseLife" (playerMatch.write m)
    | .dealtDamage m => tagged "DealtDamage" (cardMatch.write m)
    | .condition c => tagged "Condition" (condition.write c)
  read d := do
    match ← d.variant? with
    | ("Play", d) => (cardMatch.read d).map .play
    | ("GainLife", d) => (playerMatch.read d).map .gainLife
    | ("LoseLife", d) => (playerMatch.read d).map .loseLife
    | ("DealtDamage", d) => (cardMatch.read d).map .dealtDamage
    | ("Condition", d) => (condition.read d).map .condition
    | _ => none

end CardGame.Form
