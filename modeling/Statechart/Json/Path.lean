import Statechart.Json.Basic

namespace Statechart.Json

-- What a row of keys leads to.
def follow : Json → List String → Option Json
  | j, [] => some j
  | j, key :: rest => (j.get? key).bind (follow · rest)

def followString (j : Json) (path : List String) : Option String :=
  match j.follow path with
  | some (.string s) => some s
  | _ => none

-- Puts a value at the end of a row of keys. Objects missing on the way are made, and whatever
-- else stands on the way gives place to an object.
def assign (ms : Members) (value : Json) : List String → Members
  | [] => ms
  | [key] => Table.put ms key value
  | key :: next :: rest =>
      let inner := ((Table.get? ms key).map members).getD []
      Table.put ms key (.object (assign inner value (next :: rest)))

end Statechart.Json
