/-!
Lists in running text: items with one separator between them, or with commas and a conjunction
before the last.
-/

namespace CardGame.Text

def join (separator : String) : List String → String
  | [] => ""
  | [a] => a
  | a :: rest => a ++ separator ++ join separator rest

def enumerate (conjunction : String) : List String → String
  | [] => ""
  | [a] => a
  | [a, b] => a ++ " " ++ conjunction ++ " " ++ b
  | a :: rest => a ++ ", " ++ enumerate conjunction rest

end CardGame.Text
