import Statechart.Json.Number
import Statechart.Table

namespace Statechart

-- A JSON document. The members of an object keep the order in which their keys came.
inductive Json where
  | null
  | bool (value : Bool)
  | number (value : Json.Number)
  | string (value : String)
  | array (elements : List Json)
  | object (members : List (String × Json))

namespace Json

abbrev Members := List (String × Json)

-- No key occurs twice in an object, at any depth.
mutual

def DistinctKeys : Json → Prop
  | .array elements => ElementsDistinct elements
  | .object members => (Table.keys members).Nodup ∧ MembersDistinct members
  | _ => True

def ElementsDistinct : List Json → Prop
  | [] => True
  | element :: rest => element.DistinctKeys ∧ ElementsDistinct rest

def MembersDistinct : Members → Prop
  | [] => True
  | (_, value) :: rest => value.DistinctKeys ∧ MembersDistinct rest

end

def isObject : Json → Bool
  | .object _ => true
  | _ => false

-- The members of an object; anything else has none.
def members : Json → Members
  | .object ms => ms
  | _ => []

def get? (j : Json) (key : String) : Option Json :=
  Table.get? j.members key

-- The kinds of document, as a reader of a diagnostic knows them.
def kind : Json → String
  | .null => "null"
  | .bool _ => "a boolean"
  | .number _ => "a number"
  | .string _ => "a string"
  | .array _ => "an array"
  | .object _ => "an object"

end Json

end Statechart
