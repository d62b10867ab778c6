namespace Statechart

-- The parts of a state's behaviour.
inductive Rule where
  | entry
  | activity
  | exit
deriving DecidableEq, Repr

def Rule.label : Rule → String
  | .entry => "entry"
  | .activity => "do"
  | .exit => "exit"

-- The blocks of the editor that can have the focus.
inductive Block where
  | changeState
  | stateDefinition
  | stateAction
  | switchIf
  | switchElseIf
  | entry
  | doContinuous
  | doOnetime
  | exit
deriving DecidableEq, Repr

namespace Block

def name : Block → String
  | .changeState => "changeStateType"
  | .stateDefinition => "stateDefinitionType"
  | .stateAction => "stateActionType"
  | .switchIf => "switchIfType"
  | .switchElseIf => "switchElseIfType"
  | .entry => "entryType"
  | .doContinuous => "doContinuousType"
  | .doOnetime => "doOnetimeType"
  | .exit => "exitType"

def all : List Block :=
  [.changeState, .stateDefinition, .stateAction, .switchIf, .switchElseIf, .entry, .doContinuous, .doOnetime,
    .exit]

def ofName? (name : String) : Option Block :=
  all.find? fun block => block.name == name

end Block

-- What a click is on: a block of the editor, or something it has another name for. No name of a
-- block is such a name, so the text of a click's kind determines the kind.
inductive ClickKind where
  | block (block : Block)
  | other (name : String) (unknown : Block.ofName? name = none)
deriving DecidableEq

namespace ClickKind

def ofText (text : String) : ClickKind :=
  match h : Block.ofName? text with
  | some b => .block b
  | none => .other text h

def text : ClickKind → String
  | .block b => b.name
  | .other name _ => name

def block? : ClickKind → Option Block
  | .block b => some b
  | .other _ _ => none

-- The blocks of a conditional branch colour the arrows of their state.
def isBranch (kind : ClickKind) : Bool :=
  match kind.block? with
  | some .switchIf | some .switchElseIf => true
  | _ => false

-- The part of a state's behaviour that a block edits.
def rule? (kind : ClickKind) : Option Rule :=
  match kind.block? with
  | some .entry => some .entry
  | some .doContinuous | some .doOnetime => some .activity
  | some .exit => some .exit
  | _ => none

end ClickKind

-- The click on an item. `number` is the place of the transition whose next-state block has the
-- focus; `stateName` is kept as the editor wrote it.
structure Click where
  kind : Option ClickKind := none
  number : Option UInt64 := none
  stateName : Option String := none
deriving DecidableEq

end Statechart
