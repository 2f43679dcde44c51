import CardGame.Effect.Trigger
import CardGame.Snapshot.Bytes

/-!
Symbols, matches and triggers in a snapshot. Card matches may be nested; each level takes bytes of
its own, so a decoder that may go as deep as there are bytes never meets its limit.
-/

namespace CardGame.Snapshot.Codec

def quantity : Codec Quantity where
  encode
    | .number n => tag 0 ++ signed64.encode n
    | .one => tag 1
    | .x => tag 2
  decode := do
    match ← variant 3 with
    | 0 => return .number (← signed64.decode)
    | 1 => return .one
    | _ => return .x

def essence : Codec Essence :=
  choice Essence.all

def color : Codec Color :=
  choice Color.all

def costSymbol : Codec CostSymbol where
  encode
    | .essence e => tag 0 ++ essence.encode e
    | .activate => tag 1
    | .deactivate => tag 2
    | .generic q => tag 3 ++ quantity.encode q
  decode := do
    match ← variant 4 with
    | 0 => return .essence (← essence.decode)
    | 1 => return .activate
    | 2 => return .deactivate
    | _ => return .generic (← quantity.decode)

def kindWord : Codec KindWord :=
  (pair (choice CardKind.all) bool).imap (fun (k, p) => ⟨k, p⟩) fun k => (k.kind, k.plural)

def subtype : Codec CardSubtype :=
  choice CardSubtype.all

def keyword : Codec Keyword :=
  choice Keyword.all

def stats : Codec Stats :=
  (pair quantity quantity).imap (fun (p, h) => ⟨p, h⟩) fun s => (s.power, s.health)

def selector : Codec Selector :=
  choice [.sacrificed, .target]

def stat : Codec Stat :=
  choice [.damage, .health]

def direction : Codec Direction :=
  choice [.greater, .less]

def trait : Codec Trait where
  encode
    | .color c => tag 0 ++ color.encode c
    | .nonColor c => tag 1 ++ color.encode c
    | .kind k => tag 2 ++ kindWord.encode k
    | .nonKind k => tag 3 ++ kindWord.encode k
    | .activated => tag 4
    | .deactivated => tag 5
    | .stats s => tag 6 ++ stats.encode s
  decode := do
    match ← variant 7 with
    | 0 => return .color (← color.decode)
    | 1 => return .nonColor (← color.decode)
    | 2 => return .kind (← kindWord.decode)
    | 3 => return .nonKind (← kindWord.decode)
    | 4 => return .activated
    | 5 => return .deactivated
    | _ => return .stats (← stats.decode)

mutual

def encodeAlternative : Alternative → List UInt8
  | .named => tag 0
  | .this => tag 1
  | .filter f => tag 2 ++ encodeFilter f

def encodeFilter : CardFilter → List UInt8
  | ⟨chosen, traits, without, has, targeting⟩ =>
    (option selector).encode chosen ++ (list trait).encode traits
      ++ (option keyword).encode without
      ++ (match has with
        | none => [0]
        | some h => 1 :: encodeHaving h)
      ++ word64.encode (UInt64.ofNat targeting.length) ++ encodeMatches targeting

def encodeHaving : Having → List UInt8
  | .keywords ks => tag 0 ++ (list keyword).encode ks
  | .comparison s c => tag 1 ++ stat.encode s ++ encodeComparison c

def encodeComparison : Comparison → List UInt8
  | ⟨lead, n, trail⟩ =>
    (option direction).encode lead ++ encodeCount n ++ (option direction).encode trail

def encodeCount : Count → List UInt8
  | .numberOf m => tag 0 ++ word64.encode (UInt64.ofNat m.length) ++ encodeAlternatives m
  | .attribute m s =>
    tag 1 ++ word64.encode (UInt64.ofNat m.length) ++ encodeAlternatives m ++ stat.encode s
  | .value q => tag 2 ++ quantity.encode q

def encodeAlternatives : List Alternative → List UInt8
  | [] => []
  | a :: rest => encodeAlternative a ++ encodeAlternatives rest

def encodeMatches : List (List Alternative) → List UInt8
  | [] => []
  | m :: rest =>
    word64.encode (UInt64.ofNat m.length) ++ encodeAlternatives m ++ encodeMatches rest

end

def encodeMatch (m : CardMatch) : List UInt8 :=
  word64.encode (UInt64.ofNat m.length) ++ encodeAlternatives m

def decodeCount (inner : Decoder CardMatch) : Decoder Count := do
  match ← variant 3 with
  | 0 => return .numberOf (← inner)
  | 1 =>
    let owner ← inner
    return .attribute owner (← stat.decode)
  | _ => return .value (← quantity.decode)

def decodeComparison (inner : Decoder CardMatch) : Decoder Comparison := do
  let lead ← (option direction).decode
  let n ← decodeCount inner
  let trail ← (option direction).decode
  return ⟨lead, n, trail⟩

def decodeHaving (inner : Decoder CardMatch) : Decoder Having := do
  match ← variant 2 with
  | 0 => return .keywords (← (list keyword).decode)
  | _ =>
    let s ← stat.decode
    return .comparison s (← decodeComparison inner)

def decodeFilter (inner : Decoder CardMatch) : Decoder CardFilter := do
  let chosen ← (option selector).decode
  let traits ← (list trait).decode
  let without ← (option keyword).decode
  let has ← decodeOption (decodeHaving inner)
  let targeting ← decodeList inner
  return ⟨chosen, traits, without, has, targeting⟩

def decodeAlternative (inner : Decoder CardMatch) : Decoder Alternative := do
  match ← variant 3 with
  | 0 => return .named
  | 1 => return .this
  | _ => return .filter (← decodeFilter inner)

def decodeMatchWithin : (depth : Nat) → Decoder CardMatch
  | 0 => throw .endOfFile
  | depth + 1 => decodeList (decodeAlternative (decodeMatchWithin depth))

/-- Read a card match; it cannot be nested deeper than there are bytes. -/
def decodeMatch : Decoder CardMatch := fun bytes =>
  decodeMatchWithin (bytes.length + 1) bytes

def cardMatch : Codec CardMatch :=
  ⟨encodeMatch, decodeMatch⟩

def comparison : Codec Comparison :=
  ⟨encodeComparison, decodeComparison decodeMatch⟩

def playerMatch : Codec PlayerMatch :=
  list (choice [.each, .you, .opponent, .controller])

def anyMatch : Codec AnyMatch where
  encode
    | .player m => tag 0 ++ playerMatch.encode m
    | .card m => tag 1 ++ cardMatch.encode m
    | .anyTarget => tag 2
  decode := do
    match ← variant 3 with
    | 0 => return .player (← playerMatch.decode)
    | 1 => return .card (← cardMatch.decode)
    | _ => return .anyTarget

def zoneMatch : Codec ZoneMatch :=
  list (choice Zone.all)

def playerAction : Codec PlayerAction where
  encode
    | .sacrifice m => tag 0 ++ cardMatch.encode m
    | .draw => tag 1
  decode := do
    match ← variant 2 with
    | 0 => return .sacrifice (← cardMatch.decode)
    | _ => return .draw

def cardAction : Codec CardAction :=
  choice [.entersBoard, .leavesBoard]

def condition : Codec Condition where
  encode
    | .yourTurn => tag 0
    | .notYourTurn => tag 1
    | .player who action => tag 2 ++ playerMatch.encode who ++ playerAction.encode action
    | .card which action => tag 3 ++ cardMatch.encode which ++ cardAction.encode action
    | .numerical s c => tag 4 ++ stat.encode s ++ comparison.encode c
  decode := do
    match ← variant 5 with
    | 0 => return .yourTurn
    | 1 => return .notYourTurn
    | 2 =>
      let who ← playerMatch.decode
      return .player who (← playerAction.decode)
    | 3 =>
      let which ← cardMatch.decode
      return .card which (← cardAction.decode)
    | _ =>
      let s ← stat.decode
      return .numerical s (← comparison.decode)

def trigger : Codec Trigger where
  encode
    | .play m => tag 0 ++ cardMatch.encode m
    | .gainLife m => tag 1 ++ playerMatch.encode m
    | .loseLife m => tag 2 ++ playerMatch.encode m
    | .dealtDamage m => tag 3 ++ cardMatch.encode m
    | .condition c => tag 4 ++ condition.encode c
  decode := do
    match ← variant 5 with
    | 0 => return .play (← cardMatch.decode)
    | 1 => return .gainLife (← playerMatch.decode)
    | 2 => return .loseLife (← playerMatch.decode)
    | 3 => return .dealtDamage (← cardMatch.decode)
    | _ => return .condition (← condition.decode)

end CardGame.Snapshot.Codec
