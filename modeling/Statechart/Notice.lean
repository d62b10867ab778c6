namespace Statechart

-- What is wrong with a model. A diagram shows at most one of these, the first in this order.
inductive Notice where
  | missingInitialState
  | invalidStateName
  | multipleInitialTransitions
  | duplicateState
  | noTransitionFromInitial
deriving DecidableEq, Repr

namespace Notice

def all : List Notice :=
  [.missingInitialState, .invalidStateName, .multipleInitialTransitions, .duplicateState,
    .noTransitionFromInitial]

-- What the note that shows a notice is called.
def label : Notice → String
  | .missingInitialState => "InitialStateDefinitionError"
  | .invalidStateName => "stateNameNamingError"
  | .multipleInitialTransitions => "InvalidStateTransitionError"
  | .duplicateState => "DuplicateStateDefinitionError"
  | .noTransitionFromInitial => "InitialStateTransitionError"

-- The lines inside the note.
def lines : Notice → List String
  | .missingInitialState => [" <b><color:red>\"初めは「初期状態」としてください\""]
  | .invalidStateName => [" <b><color:red>\"「状態名」には数字・日本語・アルファベットのみ使用できます\""]
  | .multipleInitialTransitions =>
      [" <b><color:red>\"「初期状態」から到達できるのは一つの状態だけです\"",
        "<b><color:red>\"「初期状態」には「イベント」を設定できません\""]
  | .duplicateState => [" <b><color:red>\"同じ状態は複数回定義できません\""]
  | .noTransitionFromInitial => [" <b><color:red>\"「初期状態」の次の状態を決めてください\""]

-- The whole note, with the line feed behind it.
def note (n : Notice) : String :=
  "note as " ++ n.label ++ "\n" ++ String.join (n.lines.map (· ++ "\n")) ++ " end note\n"

end Notice

end Statechart
