import Statechart.Item.Basic
import Statechart.Json.Basic

-- The editor's payload has no version. What is missing or of the wrong kind reads as absent; only
-- a payload that is no array is refused.
namespace Statechart.Payload

-- The text of a scalar.
def text? : Json → Option String
  | .string s => some s
  | .number n => some n.text
  | .bool true => some "true"
  | .bool false => some "false"
  | .null | .array _ | .object _ => none

def truthy : Json → Bool
  | .bool b => b
  | .string s => Text.trim s == "true"
  | .number n => !n.isZero
  | .null | .array _ | .object _ => false

def index? : Json → Option UInt64
  | .number (.natural n) => some n
  | .string s => Text.readIndex s
  | _ => none

def textAt (j : Json) (key : String) : Option String :=
  (j.get? key).bind text?

-- The members of a record; anything but an object is no record.
def recordAt (j : Json) (key : String) : Option Json :=
  (j.get? key).filter Json.isObject

def transition (j : Json) : Transition where
  next := textAt j "nextState"
  event := textAt j "event"
  guard := textAt j "guard"
  effect := textAt j "effect"

-- An entry that is no record still counts as a transition.
def transitions (j : Json) : List Transition :=
  match j.get? "transition" with
  | some (.array entries) => entries.map transition
  | _ => []

def behavior (j : Json) : Behavior where
  entry := textAt j "entry"
  activity := textAt j "do"
  exit := textAt j "exit"

def click (j : Json) : Click where
  kind := (textAt j "type").map ClickKind.ofText
  number := (j.get? "number").bind index?
  stateName := textAt j "stateName"

def isPresent : Json → Bool
  | .null => false
  | _ => true

def item (j : Json) : Item where
  name := (textAt j "state").getD ""
  transitions := transitions j
  behavior := ((recordAt j "behavior").map behavior).getD {}
  attached := (j.get? "myself").map fun m => ((m.get? "condition").map truthy).getD false
  current := ((j.get? "current").map isPresent).getD false
  click := (recordAt j "click").map click
  invalid := (recordAt j "invalid").map fun i => (textAt i "condition").getD ""

-- A payload that is no array; the text names its kind.
structure NotAnArray where
  found : String
deriving DecidableEq

-- The items of a payload, in order. Entries that are no records are left out.
def read (j : Json) : Except NotAnArray (List Item) :=
  match j with
  | .array entries => .ok ((entries.filter Json.isObject).map item)
  | _ => .error ⟨j.kind⟩

-- The entries that `read` leaves out: where they stand and what they are.
def skipped : Json → List (Nat × String)
  | .array entries => entries.zipIdx.filterMap fun (entry, i) =>
      if entry.isObject then none else some (i, entry.kind)
  | _ => []

end Statechart.Payload
