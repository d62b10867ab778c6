import Statechart.Item.Basic
import Statechart.Notice

namespace Statechart

-- What one pass over a model finds out about it.
structure Health where
  hasInitial : Bool := false
  hasInvalidName : Bool := false
  hasMultipleInitialTransitions : Bool := false
  hasDuplicate : Bool := false
  hasTransitionFromInitial : Bool := false
deriving DecidableEq, Repr

namespace Health

-- The first thing wrong, most important first.
def firstViolation (h : Health) : Option Notice :=
  if !h.hasInitial then some .missingInitialState
  else if h.hasInvalidName then some .invalidStateName
  else if h.hasMultipleInitialTransitions then some .multipleInitialTransitions
  else if h.hasDuplicate then some .duplicateState
  else if !h.hasTransitionFromInitial then some .noTransitionFromInitial
  else none

-- Flags are only ever raised.
def observe (h : Health) (item : Item) : Health where
  hasInitial := h.hasInitial || (item.isInitial && item.attached == some true)
  hasInvalidName := h.hasInvalidName || !(Name.isValid item.name && item.targets.all Name.isValid)
  hasMultipleInitialTransitions :=
    h.hasMultipleInitialTransitions || (item.isInitial && 2 ≤ item.transitions.length)
  hasDuplicate := h.hasDuplicate || item.isDuplicate
  hasTransitionFromInitial := h.hasTransitionFromInitial || (item.isInitial && !item.targets.isEmpty)

def ofItems (items : List Item) : Health :=
  items.foldl observe {}

end Health

end Statechart
