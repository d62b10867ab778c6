import Statechart.Diagram.Statement
import Statechart.Focus
import Statechart.States
import Statechart.Style

namespace Statechart

-- The drawing of a sound model: the states to declare, what is said about each item, and the
-- state that has the focus.
structure Drawing where
  declared : List String
  chunks : List (List Statement)
  highlight : Option Highlight
deriving DecidableEq

-- A diagram shows the drawing of its model, or in its place the one thing to put right.
inductive Body where
  | notice (notice : Notice)
  | drawing (drawing : Drawing)
deriving DecidableEq

structure Diagram where
  font : String
  color : String
  body : Body
deriving DecidableEq

def Drawing.ofItems (items : List Item) (focus : Focus) : Drawing where
  declared := (states items).filter (!Name.isReserved ·)
  chunks := items.map Item.statements
  highlight := (items.foldl Focus.observeBlock focus).highlight? (activeState items)

namespace Diagram

-- Every model has a diagram.
def ofItems (style : Style) (items : List Item) : Diagram :=
  let (health, focus) := survey items
  { font := style.font
    color := style.color
    body := match health.firstViolation with
      | some notice => .notice notice
      | none => .drawing (.ofItems items focus) }

def notice? (d : Diagram) : Option Notice :=
  match d.body with
  | .notice n => some n
  | .drawing _ => none

end Diagram

-- A declaration of a state; one that still has to be named is red.
def declaration (name : String) : String :=
  "state " ++ name ++ (if Name.isUndefined name then "#text:red" else "") ++ "\n"

def chunk (color : String) (statements : List Statement) : String :=
  String.join (statements.map (Statement.render color))

def Drawing.render (color : String) (d : Drawing) : String :=
  String.join (d.declared.map declaration) ++ String.join (d.chunks.map (chunk color)) ++
    ((d.highlight.map fun h => h.render color ++ "\n").getD "")

def Body.render (color : String) : Body → String
  | .notice n => n.note
  | .drawing d => d.render color

def Diagram.header (font : String) : String :=
  "@startuml\nskinparam defaultFontName \"" ++ font ++ "\"\n"

-- The document that shows a diagram. It ends without a line feed.
def Diagram.render (d : Diagram) : String :=
  header d.font ++ d.body.render d.color ++ "@enduml"

end Statechart
