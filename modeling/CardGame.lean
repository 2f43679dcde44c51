import CardGame.Amount
import CardGame.Card.Basic
import CardGame.Card.Symbol
import CardGame.Config
import CardGame.Document.Basic
import CardGame.Document.Card
import CardGame.Document.Config
import CardGame.Document.Match
import CardGame.Effect.Ability
import CardGame.Effect.Basic
import CardGame.Effect.Trigger
import CardGame.Event.Basic
import CardGame.Event.Bus
import CardGame.Game.Action
import CardGame.Game.Cost
import CardGame.Game.Emission
import CardGame.Game.Movement
import CardGame.Game.Prompting
import CardGame.Game.Query
import CardGame.Game.Resolution
import CardGame.Game.Setup
import CardGame.Game.State
import CardGame.Game.Turn
import CardGame.Grammar.Card
import CardGame.Grammar.Effect
import CardGame.Grammar.Match
import CardGame.Grammar.Parser
import CardGame.Match.Basic
import CardGame.Match.Text
import CardGame.Object
import CardGame.Play.Choice
import CardGame.Play.Essence
import CardGame.Play.Instance
import CardGame.Play.Player
import CardGame.Play.PriorityStack
import CardGame.Play.Turn
import CardGame.Play.Use
import CardGame.Random.Generator
import CardGame.Random.KeyStream
import CardGame.Random.KeyedHash
import CardGame.Registry
import CardGame.Seats
import CardGame.Snapshot.Bytes
import CardGame.Snapshot.Card
import CardGame.Snapshot.Match
import CardGame.Snapshot.Utf8
import CardGame.Text.Alphanumeric
import CardGame.Text.Blank
import CardGame.Text.CharacterSet
import CardGame.Text.Join
import CardGame.Text.Lines
import CardGame.Text.LowerCase
import CardGame.Text.Quoted
import CardGame.Text.Span
import CardGame.Text.Token
import CardGame.Zone.Basic
import CardGame.Zone.Board
import CardGame.Zone.Pile
import CardGame.Proofs.Keeping
import CardGame.Proofs.Prompting
import CardGame.Proofs.Emission
import CardGame.Proofs.Effects
import CardGame.Proofs.Reached
import CardGame.Proofs.Containers
import CardGame.Proofs.Identity
import CardGame.Proofs.Stack
import CardGame.Proofs.Zones
import CardGame.Proofs.Outcome
import CardGame.Proofs.Scanning
import CardGame.Proofs.Parts
import CardGame.Proofs.Tiling
import CardGame.Proofs.Spelling
import CardGame.Proofs.CardSpelling
import CardGame.Proofs.Clarity
import CardGame.Proofs.Beginnings
import CardGame.Proofs.MatchReading
import CardGame.Proofs.CardClarity
import CardGame.Proofs.EffectReading
import CardGame.Proofs.AbilityReading
import CardGame.Proofs.CardReading
import CardGame.Proofs.Phrases
import CardGame.Proofs.Derivation
import CardGame.Proofs.Yield
import CardGame.Proofs.RoundTrip
import CardGame.Proofs.SourceLines
import CardGame.Proofs.ErrorPlaces
import CardGame.Proofs.TypeLine
import CardGame.Proofs.Numbering
import CardGame.Proofs.Queries
import CardGame.Proofs.Failing
import CardGame.Proofs.Firing
import CardGame.Proofs.Paying
import CardGame.Proofs.Offers
import CardGame.Proofs.Coding
import CardGame.Proofs.Registering
import CardGame.Proofs.Snapshot
import CardGame.Proofs.Loading
import CardGame.Proofs.Essence
import CardGame.Proofs.ChosenX
import CardGame.Proofs.Naming
import CardGame.Proofs.Costs
import CardGame.Proofs.Traces
import CardGame.Proofs.TurnOrder
import CardGame.Proofs.Rounds
import CardGame.Proofs.Settling
import CardGame.Proofs.BoardEvents
import CardGame.Proofs.Printed
import CardGame.Proofs.Survival
import CardGame.Proofs.Power
import CardGame.Proofs.Losing
import CardGame.Proofs.StackedCards
import CardGame.Proofs.Attacks
import CardGame.Proofs.Finishing
import CardGame.Proofs.Searching
import CardGame.Proofs.Targeting
import CardGame.Proofs.Nesting
import CardGame.Proofs.Rereading
import CardGame.Proofs.Shuffling
import CardGame.Proofs.Transfers
import CardGame.Proofs.Drawing
import CardGame.Proofs.Consent
import CardGame.Proofs.Discarding
import CardGame.Proofs.Tokens
import CardGame.Proofs.MatchModes
import CardGame.Proofs.Observers
import CardGame.Proofs.Choosing
import CardGame.Proofs.Moves
import CardGame.Proofs.Productions
import CardGame.Proofs.Bookkeeping
import CardGame.Proofs.WholeWords
