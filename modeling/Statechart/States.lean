import Statechart.Item.Basic
import Statechart.Text.Blank

namespace Statechart

-- All targets of a model, in the order of its items and their transitions.
def targets (items : List Item) : List String :=
  items.flatMap Item.targets

-- The name under which a state is declared.
def declaredName (name : String) : String :=
  Text.trim (Name.plain name)

-- The states that a model speaks of, each once: first those it declares, then those that only
-- transitions lead to.
def states (items : List Item) : List String :=
  (((items.map Item.name ++ targets items).map declaredName).filter (· != "")).eraseDups

-- The active state, as the first target that carries the marker has it.
def activeState (items : List Item) : Option String :=
  (targets items).find? Name.isMarked

end Statechart
