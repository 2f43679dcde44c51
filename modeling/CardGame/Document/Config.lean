import CardGame.Config
import CardGame.Document.Basic

/-!
The settings of a format as a document. A field that is left out has its default.
-/

namespace CardGame.RulesConfig

def fieldNames : List String :=
  ["board_size", "start_cards", "start_life", "sources_per_turn", "max_prompt_retries",
    "max_event_depth", "max_actions_per_phase", "max_turns", "seed"]

/-- The settings with one of them changed; nothing when the value does not fit. Names of no setting
change nothing. -/
def set? (c : RulesConfig) (name : String) (d : Document) : Option RulesConfig :=
  match name with
  | "board_size" => (Form.word64.read d).map fun n => { c with boardSize := n }
  | "start_cards" => (Form.word64.read d).map fun n => { c with startCards := n }
  | "start_life" => (Form.amount.read d).map fun n => { c with startLife := n }
  | "sources_per_turn" => (Form.word32.read d).map fun n => { c with sourcesPerTurn := n }
  | "max_prompt_retries" => (Form.word32.read d).map fun n => { c with maxPromptRetries := n }
  | "max_event_depth" => (Form.word64.read d).map fun n => { c with maxEventDepth := n }
  | "max_actions_per_phase" => (Form.word64.read d).map fun n => { c with maxActionsPerPhase := n }
  | "max_turns" => (Form.word32.option.read d).map fun n => { c with maxTurns := n }
  | "seed" => (Form.word64.read d).map fun n => { c with seed := n }
  | _ => some c

def setAll? (c : RulesConfig) (fields : List (String × Document)) : Option RulesConfig :=
  fields.foldlM (fun c (name, d) => c.set? name d) c

/-- Settings as documents. A list stands for the settings in order, as far as it goes. -/
def form : Form RulesConfig where
  write c :=
    .record (fieldNames.zip
      [Form.word64.write c.boardSize, Form.word64.write c.startCards, Form.amount.write c.startLife,
        Form.word32.write c.sourcesPerTurn, Form.word32.write c.maxPromptRetries,
        Form.word64.write c.maxEventDepth, Form.word64.write c.maxActionsPerPhase,
        Form.word32.option.write c.maxTurns, Form.word64.write c.seed])
  read
    | .record fs => setAll? {} fs
    | .list items =>
      if items.length ≤ fieldNames.length then setAll? {} (fieldNames.zip items) else none
    | _ => none

end CardGame.RulesConfig
