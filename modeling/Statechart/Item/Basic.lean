import Statechart.Item.Click
import Statechart.Name

namespace Statechart

-- An edge out of a state. Without `next` it has no target and is not drawn.
structure Transition where
  next : Option String := none
  event : Option String := none
  guard : Option String := none
  effect : Option String := none
deriving DecidableEq

namespace Transition

-- The event that stands for no event.
def completion : String := "completeEvent"

-- Event, guard and effect as they stand on an edge, from whichever of them there are.
def label? (t : Transition) : Option String :=
  let event := t.event.filter (· != completion)
  if event.isNone && t.guard.isNone && t.effect.isNone then none
  else
    let guard := (t.guard.map fun g => " [" ++ g ++ "]").getD ""
    let effect := (t.effect.map fun e => " / " ++ e).getD ""
    some (event.getD "" ++ guard ++ effect)

end Transition

-- What a state does while it is active.
structure Behavior where
  entry : Option String := none
  activity : Option String := none
  exit : Option String := none
deriving DecidableEq

namespace Behavior

def part (b : Behavior) : Rule → Option String
  | .entry => b.entry
  | .activity => b.activity
  | .exit => b.exit

-- The parts that are there, in the order in which they are drawn.
def rules (b : Behavior) : List (Rule × String) :=
  [Rule.entry, .activity, .exit].filterMap fun rule => (b.part rule).map (rule, ·)

def isEmpty (b : Behavior) : Bool :=
  b.entry.isNone && b.activity.isNone && b.exit.isNone

end Behavior

-- A state of the model as the editor declares it. `attached` is there when the editor wrote
-- whether the state is to be treated as initial; `invalid` holds a condition of its own.
structure Item where
  name : String := ""
  transitions : List Transition := []
  behavior : Behavior := {}
  attached : Option Bool := none
  current : Bool := false
  click : Option Click := none
  invalid : Option String := none
deriving DecidableEq

namespace Item

def isInitial (item : Item) : Bool :=
  item.name == Name.initial

def clickKind? (item : Item) : Option ClickKind :=
  item.click.bind Click.kind

-- The editor saw the name declared twice.
def isDuplicate (item : Item) : Bool :=
  item.invalid == some "true"

-- The transitions that have a target, each with it.
def targeted (item : Item) : List (Transition × String) :=
  item.transitions.filterMap fun t => t.next.map (t, ·)

def targets (item : Item) : List String :=
  item.targeted.map Prod.snd

end Item

end Statechart
