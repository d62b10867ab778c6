import Statechart.Json.Basic

namespace Statechart.Json

mutual

-- Lays one document over another. Two objects are merged key by key, the keys of the base first
-- and in their order; any other overlay takes the place of the base.
def merge : Json → Json → Json
  | .object base, .object overlay =>
      .object (mergeMembers base overlay ++ overlay.filter fun m => !Table.hasKey base m.1)
  | _, overlay => overlay

def mergeMembers : Members → Members → Members
  | [], _ => []
  | (key, value) :: rest, overlay =>
      (key, match Table.get? overlay key with
        | some new => value.merge new
        | none => value) :: mergeMembers rest overlay

end

end Statechart.Json
