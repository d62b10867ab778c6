import Statechart.Health

namespace Statechart

-- The ways to style the state that has the focus: outline the target of an edge, colour a name,
-- or outline a state.
inductive Template where
  | target
  | name
  | action
deriving DecidableEq, Repr

def Template.ofClick? (kind : ClickKind) : Option Template :=
  match kind.block? with
  | some .changeState => some .target
  | some .stateDefinition => some .name
  | some .stateAction => some .action
  | _ => none

-- A block with the focus, and the name of the item it belongs to.
structure FocusedBlock where
  owner : String
  kind : ClickKind
deriving DecidableEq

-- A styled declaration. `active` says that its state is the active one.
structure Highlight where
  subject : String
  template : Template
  active : Bool
deriving DecidableEq

def Highlight.render (color : String) (h : Highlight) : String :=
  let red := if Name.isUndefined h.subject then ";text:red" else ""
  "state " ++ h.subject ++ match h.template, h.active with
    | .target, false => " #line:" ++ color ++ ";line.bold" ++ red
    | .target, true => ";line:" ++ color ++ ";line.bold" ++ red
    | .name, false => " #text:" ++ color
    | .name, true => ";text:" ++ color
    | .action, false => " #line:" ++ color ++ ";line.bold" ++ red
    | .action, true => " " ++ Name.marker ++ ";line:" ++ color ++ ";line.bold" ++ red

-- What the editor is looking at: the last block with the focus, and the target of the last
-- transition that an indexed click is on. The two are gathered apart from each other.
structure Focus where
  block : Option FocusedBlock := none
  target : Option String := none
deriving DecidableEq

namespace Focus

def observeBlock (f : Focus) (item : Item) : Focus :=
  match item.clickKind? with
  | some kind => { f with block := some ⟨item.name, kind⟩ }
  | none => f

-- The target of the transition that an item's click points at. A click without a kind points at
-- nothing.
def clickedTarget? (item : Item) : Option String := do
  let click ← item.click
  let _ ← click.kind
  let number ← click.number
  let transition ← item.transitions[number.toNat]?
  transition.next

def observeIndex (f : Focus) (item : Item) : Focus :=
  match clickedTarget? item with
  | some target => { f with target := some target }
  | none => f

-- The state to style: the target of a transition goes before the owner of a block.
def subject? (f : Focus) : Option String :=
  f.target.or (f.block.map FocusedBlock.owner)

-- The block alone decides the template.
def template? (f : Focus) : Option Template :=
  f.block.bind fun block => Template.ofClick? block.kind

-- The final pseudostate is never styled.
def highlight? (f : Focus) (active : Option String) : Option Highlight := do
  let subject ← f.subject?
  let template ← f.template?
  if subject = Name.final then none else some ⟨subject, template, active == some subject⟩

end Focus

-- Health and indexed clicks of a model in one pass.
def survey (items : List Item) : Health × Focus :=
  items.foldl (fun (health, focus) item => (health.observe item, focus.observeIndex item)) ({}, {})

end Statechart
