import Statechart.Item.Basic

namespace Statechart

-- The arrow of an edge; the arrows of a state whose branch has the focus are coloured.
inductive Arrow where
  | ordinary
  | colored
deriving DecidableEq, Repr

def Arrow.render (color : String) : Arrow → String
  | .ordinary => "-->"
  | .colored => "-[#" ++ color ++ "]->"

def Arrow.of (item : Item) : Arrow :=
  match item.clickKind? with
  | some kind => if kind.isBranch then .colored else .ordinary
  | none => .ordinary

-- What a diagram says about one state. A `start` leaves the initial pseudostate, which can have
-- neither event nor guard: one that has is drawn with a note.
inductive Statement where
  | start (arrow : Arrow) (target : String) (effect : Option String) (event guard : Bool)
  | edge (source : String) (arrow : Arrow) (target : String) (label : Option String)
  | behavior (owner : String) (rule : Rule) (colored : Bool) (text : String)
deriving DecidableEq

namespace Statement

def eventNote : String :=
  " 'InitialStateEventError\n <b><color:red> 「初期状態」には「イベント」を設定できません\n"

def guardNote : String :=
  " 'InitialStateConditionError\n <b><color:red> 「初期状態」には「条件」を設定できません\n"

-- The note on a start edge.
def startNote (event guard : Bool) : String :=
  if event || guard then
    "note on link #FFF8DC\n" ++ (if event then eventNote else "") ++ (if guard then guardNote else "") ++
      "end note\n"
  else ""

def ruleLabel (color : String) (rule : Rule) (colored : Bool) : String :=
  if colored then "<color:" ++ color ++ ">" ++ rule.label ++ "<color:black>" else rule.label

-- The lines of a statement, each with its line feed.
def render (color : String) : Statement → String
  | .start arrow target effect event guard =>
      "[*] " ++ arrow.render color ++ " " ++ Name.token target ++
        ((effect.map fun e => " : / " ++ e).getD "") ++ "\n" ++ startNote event guard
  | .edge source arrow target label =>
      source ++ " " ++ arrow.render color ++ " " ++ Name.token target ++
        ((label.map fun l => " :" ++ l).getD "") ++ "\n"
  | .behavior owner rule colored text =>
      owner ++ " : " ++ ruleLabel color rule colored ++ " / " ++ text ++ "\n"

end Statement

namespace Item

-- The edge out of the initial pseudostate: its first transition, if that has a target.
def startStatements (item : Item) : List Statement :=
  match item.transitions with
  | [] => []
  | t :: _ => match t.next with
      | none => []
      | some next => [.start (.of item) next t.effect t.event.isSome t.guard.isSome]

def edgeStatements (item : Item) : List Statement :=
  item.targeted.map fun (t, next) => .edge item.name (.of item) next t.label?

def behaviorStatements (item : Item) : List Statement :=
  let focused := item.clickKind?.bind ClickKind.rule?
  item.behavior.rules.map fun (rule, text) => .behavior item.name rule (focused == some rule) text

-- Everything a diagram says about an item. It says nothing about one without a name.
def statements (item : Item) : List Statement :=
  if item.isInitial then item.startStatements
  else if item.name = "" then []
  else item.edgeStatements ++ item.behaviorStatements

end Item

end Statechart
