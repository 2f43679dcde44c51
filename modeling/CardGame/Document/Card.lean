import CardGame.Card.Basic
import CardGame.Document.Match

/-!
Effects, abilities and cards as documents.
-/

namespace CardGame.Form

open Document (tagged)

def sign : Form Sign :=
  named [("Plus", .plus), ("Minus", .minus)]

def putPosition : Form PutPosition :=
  named [("Top", .top), ("Bottom", .bottom), ("Into", .into)]

def playerEffect : Form PlayerEffect where
  write
    | .draw n => tagged "Draw" (.record [("count", quantity.write n)])
    | .token n s kinds subtypes =>
      tagged "Token" (.record [("count", quantity.write n), ("stats", stats.option.write s),
        ("types", (list kindWord).write kinds), ("subtypes", (list subtype).write subtypes)])
    | .destroy m => tagged "Destroy" (.record [("target", cardMatch.write m)])
    | .discard n m =>
      tagged "Discard" (.record [("count", quantity.write n), ("filter", cardMatch.option.write m)])
    | .shuffle m zone =>
      tagged "Shuffle" (.record [("objects", cardMatch.option.write m),
        ("zone", zoneMatch.write zone)])
    | .look n zone =>
      tagged "Look" (.record [("count", quantity.write n), ("zone", zoneMatch.write zone)])
    | .put m position zone anyOrder randomOrder deactivated =>
      tagged "Put" (.record [("objects", cardMatch.write m),
        ("position", putPosition.write position), ("zone", zoneMatch.write zone),
        ("any_order", .bool anyOrder), ("random_order", .bool randomOrder),
        ("deactivated", .bool deactivated)])
    | .activate m => tagged "Activate" (.record [("objects", cardMatch.write m)])
    | .deactivate m => tagged "Deactivate" (.record [("objects", cardMatch.write m)])
    | .sacrifice m => tagged "Sacrifice" (.record [("objects", cardMatch.write m)])
    | .add costs => tagged "Add" (.record [("essence", (list costSymbol).write costs)])
    | .payEssence costs => tagged "PayEssence" (.record [("costs", (list costSymbol).write costs)])
    | .gainLife n => tagged "GainLife" (.record [("amount", quantity.write n)])
    | .loseLife n => tagged "LoseLife" (.record [("amount", quantity.write n)])
    | .payLife n => tagged "PayLife" (.record [("amount", quantity.write n)])
    | .extraTurn n => tagged "ExtraTurn" (.record [("count", quantity.write n)])
  read d := do
    match ← d.variant? with
    | ("Draw", .record fs) => return .draw (← quantity.field "count" fs)
    | ("Token", .record fs) =>
      return .token (← quantity.field "count" fs) (← stats.optionalField "stats" fs)
        (← (list kindWord).field "types" fs) (← (list subtype).field "subtypes" fs)
    | ("Destroy", .record fs) => return .destroy (← cardMatch.field "target" fs)
    | ("Discard", .record fs) =>
      return .discard (← quantity.field "count" fs) (← cardMatch.optionalField "filter" fs)
    | ("Shuffle", .record fs) =>
      return .shuffle (← cardMatch.optionalField "objects" fs) (← zoneMatch.field "zone" fs)
    | ("Look", .record fs) =>
      return .look (← quantity.field "count" fs) (← zoneMatch.field "zone" fs)
    | ("Put", .record fs) =>
      return .put (← cardMatch.field "objects" fs) (← putPosition.field "position" fs)
        (← zoneMatch.field "zone" fs) (← bool.field "any_order" fs) (← bool.field "random_order" fs)
        (← bool.field "deactivated" fs)
    | ("Activate", .record fs) => return .activate (← cardMatch.field "objects" fs)
    | ("Deactivate", .record fs) => return .deactivate (← cardMatch.field "objects" fs)
    | ("Sacrifice", .record fs) => return .sacrifice (← cardMatch.field "objects" fs)
    | ("Add", .record fs) => return .add (← (list costSymbol).field "essence" fs)
    | ("PayEssence", .record fs) => return .payEssence (← (list costSymbol).field "costs" fs)
    | ("GainLife", .record fs) => return .gainLife (← quantity.field "amount" fs)
    | ("LoseLife", .record fs) => return .loseLife (← quantity.field "amount" fs)
    | ("PayLife", .record fs) => return .payLife (← quantity.field "amount" fs)
    | ("ExtraTurn", .record fs) => return .extraTurn (← quantity.field "count" fs)
    | _ => none

def cardEffect : Form CardEffect where
  write
    | .damage n target =>
      tagged "Damage" (.record [("amount", quantity.write n), ("target", anyMatch.write target)])
    | .gets powerSign power healthSign health =>
      tagged "Gets" (.record [("power_sign", sign.write powerSign), ("power", quantity.write power),
        ("health_sign", sign.write healthSign), ("health", quantity.write health)])
    | .attack => .text "Attack"
  read d := do
    match ← d.variant? with
    | ("Damage", .record fs) =>
      return .damage (← quantity.field "amount" fs) (← anyMatch.field "target" fs)
    | ("Gets", .record fs) =>
      return .gets (← sign.field "power_sign" fs) (← quantity.field "power" fs)
        (← sign.field "health_sign" fs) (← quantity.field "health" fs)
    | ("Attack", .null) => some .attack
    | _ => none

def effect : Form Effect where
  write
    | .player subject optional effects =>
      tagged "Player" (.record [("subject", playerMatch.option.write subject),
        ("optional", .bool optional), ("effects", (list playerEffect).write effects)])
    | .card subject effects =>
      tagged "Card" (.record [("subject", cardMatch.option.write subject),
        ("effects", (list cardEffect).write effects)])
  read d := do
    match ← d.variant? with
    | ("Player", d) =>
      let fs ← d.fields? ["subject", "optional", "effects"]
      return .player (← playerMatch.optionalField "subject" fs) (← bool.field "optional" fs)
        (← (list playerEffect).field "effects" fs)
    | ("Card", d) =>
      let fs ← d.fields? ["subject", "effects"]
      return .card (← cardMatch.optionalField "subject" fs) (← (list cardEffect).field "effects" fs)
    | _ => none

def composed : Form Composed where
  write c := .record [("effects", (list effect).write c.effects)]
  read d := do
    let fs ← d.fields? ["effects"]
    return ⟨← (list effect).field "effects" fs⟩

def abilityCost : Form AbilityCost where
  write
    | .symbol c => tagged "Cost" (costSymbol.write c)
    | .effect e => tagged "Effect" (effect.write e)
  read d := do
    match ← d.variant? with
    | ("Cost", d) => (costSymbol.read d).map .symbol
    | ("Effect", d) => (effect.read d).map .effect
    | _ => none

def activated : Form Activated where
  write a := .record [("costs", (list abilityCost).write a.costs),
    ("effect", composed.write a.effect)]
  read d := do
    let fs ← d.fields? ["costs", "effect"]
    return ⟨← (list abilityCost).field "costs" fs, ← composed.field "effect" fs⟩

def triggered : Form Triggered where
  write t := .record [("trigger", trigger.write t.trigger), ("effect", composed.write t.effect)]
  read d := do
    let fs ← d.fields? ["trigger", "effect"]
    return ⟨← trigger.field "trigger" fs, ← composed.field "effect" fs⟩

def ability : Form Ability where
  write
    | .keyword k => tagged "Keyword" (keyword.write k)
    | .composed c => tagged "Composed" (composed.write c)
    | .activated a => tagged "Activated" (activated.write a)
    | .triggered t => tagged "Triggered" (triggered.write t)
  read d := do
    match ← d.variant? with
    | ("Keyword", d) => (keyword.read d).map .keyword
    | ("Composed", d) => (composed.read d).map .composed
    | ("Activated", d) => (activated.read d).map .activated
    | ("Triggered", d) => (triggered.read d).map .triggered
    | _ => none

def card : Form Card where
  write c :=
    .record [("name", .text c.name), ("costs", (list costSymbol).write c.costs),
      ("types", (list kindWord).write c.kinds), ("subtypes", (list subtype).write c.subtypes),
      ("abilities", (list ability).write c.abilities), ("stats", stats.option.write c.stats)]
  read d := do
    let fs ← d.fields? ["name", "costs", "types", "subtypes", "abilities", "stats"]
    return ⟨← text.field "name" fs, ← (list costSymbol).field "costs" fs,
      ← (list kindWord).field "types" fs, ← (list subtype).field "subtypes" fs,
      ← (list ability).field "abilities" fs, ← stats.optionalField "stats" fs⟩

end CardGame.Form
