import CardGame.Card.Basic
import CardGame.Snapshot.Match

/-!
Effects, abilities and whole cards in a snapshot. A snapshot is a list of cards; bytes after it are
not looked at.
-/

namespace CardGame.Snapshot

namespace Codec

def sign : Codec Sign :=
  choice [.plus, .minus]

def putPosition : Codec PutPosition :=
  choice [.top, .bottom, .into]

def playerEffect : Codec PlayerEffect where
  encode
    | .draw n => tag 0 ++ quantity.encode n
    | .token n s kinds subtypes =>
      tag 1 ++ quantity.encode n ++ (option stats).encode s ++ (list kindWord).encode kinds
        ++ (list subtype).encode subtypes
    | .destroy m => tag 2 ++ cardMatch.encode m
    | .discard n m => tag 3 ++ quantity.encode n ++ (option cardMatch).encode m
    | .shuffle m zone => tag 4 ++ (option cardMatch).encode m ++ zoneMatch.encode zone
    | .look n zone => tag 5 ++ quantity.encode n ++ zoneMatch.encode zone
    | .put m position zone anyOrder randomOrder deactivated =>
      tag 6 ++ cardMatch.encode m ++ putPosition.encode position ++ zoneMatch.encode zone
        ++ bool.encode anyOrder ++ bool.encode randomOrder ++ bool.encode deactivated
    | .activate m => tag 7 ++ cardMatch.encode m
    | .deactivate m => tag 8 ++ cardMatch.encode m
    | .sacrifice m => tag 9 ++ cardMatch.encode m
    | .add costs => tag 10 ++ (list costSymbol).encode costs
    | .payEssence costs => tag 11 ++ (list costSymbol).encode costs
    | .gainLife n => tag 12 ++ quantity.encode n
    | .loseLife n => tag 13 ++ quantity.encode n
    | .payLife n => tag 14 ++ quantity.encode n
    | .extraTurn n => tag 15 ++ quantity.encode n
  decode := do
    match ← variant 16 with
    | 0 => return .draw (← quantity.decode)
    | 1 =>
      let n ← quantity.decode
      let s ← (option stats).decode
      let kinds ← (list kindWord).decode
      return .token n s kinds (← (list subtype).decode)
    | 2 => return .destroy (← cardMatch.decode)
    | 3 =>
      let n ← quantity.decode
      return .discard n (← (option cardMatch).decode)
    | 4 =>
      let m ← (option cardMatch).decode
      return .shuffle m (← zoneMatch.decode)
    | 5 =>
      let n ← quantity.decode
      return .look n (← zoneMatch.decode)
    | 6 =>
      let m ← cardMatch.decode
      let position ← putPosition.decode
      let zone ← zoneMatch.decode
      let anyOrder ← bool.decode
      let randomOrder ← bool.decode
      return .put m position zone anyOrder randomOrder (← bool.decode)
    | 7 => return .activate (← cardMatch.decode)
    | 8 => return .deactivate (← cardMatch.decode)
    | 9 => return .sacrifice (← cardMatch.decode)
    | 10 => return .add (← (list costSymbol).decode)
    | 11 => return .payEssence (← (list costSymbol).decode)
    | 12 => return .gainLife (← quantity.decode)
    | 13 => return .loseLife (← quantity.decode)
    | 14 => return .payLife (← quantity.decode)
    | _ => return .extraTurn (← quantity.decode)

def cardEffect : Codec CardEffect where
  encode
    | .damage n target => tag 0 ++ quantity.encode n ++ anyMatch.encode target
    | .gets powerSign power healthSign health =>
      tag 1 ++ sign.encode powerSign ++ quantity.encode power ++ sign.encode healthSign
        ++ quantity.encode health
    | .attack => tag 2
  decode := do
    match ← variant 3 with
    | 0 =>
      let n ← quantity.decode
      return .damage n (← anyMatch.decode)
    | 1 =>
      let powerSign ← sign.decode
      let power ← quantity.decode
      let healthSign ← sign.decode
      return .gets powerSign power healthSign (← quantity.decode)
    | _ => return .attack

def effect : Codec Effect where
  encode
    | .player subject optional effects =>
      tag 0 ++ (option playerMatch).encode subject ++ bool.encode optional
        ++ (list playerEffect).encode effects
    | .card subject effects =>
      tag 1 ++ (option cardMatch).encode subject ++ (list cardEffect).encode effects
  decode := do
    match ← variant 2 with
    | 0 =>
      let subject ← (option playerMatch).decode
      let optional ← bool.decode
      return .player subject optional (← (list playerEffect).decode)
    | _ =>
      let subject ← (option cardMatch).decode
      return .card subject (← (list cardEffect).decode)

def composed : Codec Composed :=
  (list effect).imap Composed.mk Composed.effects

def abilityCost : Codec AbilityCost where
  encode
    | .symbol c => tag 0 ++ costSymbol.encode c
    | .effect e => tag 1 ++ effect.encode e
  decode := do
    match ← variant 2 with
    | 0 => return .symbol (← costSymbol.decode)
    | _ => return .effect (← effect.decode)

def activated : Codec Activated :=
  (pair (list abilityCost) composed).imap (fun (costs, e) => ⟨costs, e⟩) fun a =>
    (a.costs, a.effect)

def triggered : Codec Triggered :=
  (pair trigger composed).imap (fun (t, e) => ⟨t, e⟩) fun t => (t.trigger, t.effect)

def ability : Codec Ability where
  encode
    | .keyword k => tag 0 ++ keyword.encode k
    | .composed c => tag 1 ++ composed.encode c
    | .activated a => tag 2 ++ activated.encode a
    | .triggered t => tag 3 ++ triggered.encode t
  decode := do
    match ← variant 4 with
    | 0 => return .keyword (← keyword.decode)
    | 1 => return .composed (← composed.decode)
    | 2 => return .activated (← activated.decode)
    | _ => return .triggered (← triggered.decode)

/-- The costs of a card, sixteen bytes each in memory. -/
def cardCosts : Codec (List CostSymbol) :=
  reservedList 16 costSymbol

def card : Codec Card where
  encode c :=
    text.encode c.name ++ cardCosts.encode c.costs ++ (list kindWord).encode c.kinds
      ++ (list subtype).encode c.subtypes ++ (list ability).encode c.abilities
      ++ (option stats).encode c.stats
  decode := do
    let name ← text.decode
    let costs ← cardCosts.decode
    let kinds ← (list kindWord).decode
    let subtypes ← (list subtype).decode
    let abilities ← (list ability).decode
    return ⟨name, costs, kinds, subtypes, abilities, ← (option stats).decode⟩

end Codec

def encodeCards (cards : List Card) : List UInt8 :=
  (Codec.list Codec.card).encode cards

def decodeCards (bytes : List UInt8) : Except DecodeError (List Card) :=
  match (Codec.list Codec.card).decode bytes with
  | .ok (cards, _) => .ok cards
  | .error e => .error e

end CardGame.Snapshot
