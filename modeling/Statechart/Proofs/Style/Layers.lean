import Mathlib.Data.List.Induction
import Statechart.Proofs.Json.Overlay
import Statechart.Proofs.List.Search
import Statechart.Style

namespace Statechart

namespace Json

-- What a document says at a path that it does not leave open: the text that stands there, or nothing
-- because something else stands there, or something on the way that is no object.
inductive Says (document : Json) (path : List String) : Option String → Prop
  | text (value : String) (h : document.follow path = some (.string value)) : Says document path (some value)
  | other (found : Json) (h : document.follow path = some found) (hother : ∀ value, found ≠ .string value) :
      Says document path none
  | blocked (front back : List String) (key : String) (found : Json) (hpath : path = front ++ key :: back)
      (h : document.follow front = some found) (hblocked : found.isObject = false) : Says document path none

theorem Says.cons {members : Members} {key : String} {value : Json} (hvalue : Table.get? members key = some value)
    {path : List String} {text : Option String} (h : value.Says path text) :
    (object members).Says (key :: path) text := by
  have hfollow (rest : List String) : (object members).follow (key :: rest) = value.follow rest := by
    rw [follow, get?_object, hvalue, Option.bind_some]
  cases h with
  | text value h => exact .text value (hfollow path ▸ h)
  | other found h hother => exact .other found (hfollow path ▸ h) hother
  | blocked front back missing found hpath h hblocked =>
      exact .blocked (key :: front) back missing found (hpath ▸ rfl) (hfollow front ▸ h) hblocked

theorem says_followString {document : Json} {path : List String} (h : ¬document.LeavesOpen path) :
    document.Says path (document.followString path) := by
  induction path generalizing document with
  | nil =>
      cases document with
      | string value => exact .text value rfl
      | _ => exact .other _ rfl (by simp)
  | cons key rest ih =>
      cases document with
      | object members =>
          rw [leavesOpen_cons_iff] at h
          push Not at h
          obtain ⟨value, hvalue, hopen⟩ := h members rfl
          rw [followString_cons, get?_object, hvalue]
          exact (ih hopen).cons hvalue
      | _ => exact .blocked [] rest key _ rfl rfl rfl

-- What documents laid over a base in turn come to at a path: what the last of them says that does not
-- leave the path open, and the text of the base if all of them do.
def Resolves (base : Json) (overlays : List Json) (path : List String) (text : Option String) : Prop :=
  (∃ overlay, LastWith (¬LeavesOpen · path) overlays overlay ∧ overlay.Says path text) ∨
    (∀ overlay ∈ overlays, overlay.LeavesOpen path) ∧ base.followString path = text

theorem resolves_foldl_merge (base : Json) (overlays : List Json) (path : List String) :
    Resolves base overlays path ((overlays.foldl merge base).followString path) := by
  induction overlays using List.reverseRecOn with
  | nil => exact .inr ⟨by simp, rfl⟩
  | append_singleton overlays overlay ih =>
      rw [List.foldl_append, List.foldl_cons, List.foldl_nil]
      by_cases hopen : overlay.LeavesOpen path
      · rw [followString_merge_of_leavesOpen hopen]
        rcases ih with ⟨last, hlast, hsays⟩ | ⟨hall, htext⟩
        · exact .inl ⟨last, hlast.concat (not_not_intro hopen), hsays⟩
        · refine .inr ⟨fun other hm => ?_, htext⟩
          rcases List.mem_append.mp hm with hearlier | hlast
          · exact hall other hearlier
          · exact List.mem_singleton.mp hlast ▸ hopen
      · rw [followString_merge_of_not_leavesOpen hopen]
        exact .inl ⟨overlay, lastWith_concat (p := (¬LeavesOpen · path)) hopen overlays, says_followString hopen⟩

end Json

namespace Style

theorem document_foldl_overlay (base : Style) (overlays : List Json) :
    (overlays.foldl overlay base).document = overlays.foldl Json.merge base.document :=
  (List.foldl_hom document fun _ _ => rfl).symm

theorem get?_foldl_overlay (base : Style) (overlays : List Json) (path : String) :
    Json.Resolves base.document overlays (Text.segments '.' path) ((overlays.foldl overlay base).get? path) := by
  rw [get?, document_foldl_overlay]
  exact Json.resolves_foldl_merge base.document overlays (Text.segments '.' path)

theorem foldl_withSite (base : Style) (sites : List Style) :
    sites.foldl withSite base = (sites.map document).foldl overlay base := by
  rw [List.foldl_map]
  rfl

-- The last of several documents that has to say something at a path says what a style has there. So
-- sites decide on color and font, and where they come to no text there is the one built in.
theorem get?_layers (base : Style) (overlays : List Json) (path : String) (sites : List Style) :
    Json.Resolves base.document overlays (Text.segments '.' path) ((overlays.foldl overlay base).get? path) ∧
      (∃ color?, Json.Resolves standard.document (sites.map document) ["highlight", "color"] color? ∧
        (sites.foldl withSite standard).color = color?.getD "orange") ∧
      ∃ font?, Json.Resolves standard.document (sites.map document) ["font", "family"] font? ∧
        (sites.foldl withSite standard).font = font?.getD "Noto Sans JP" := by
  have hcolor : Text.segments '.' colorPath = ["highlight", "color"] := by decide
  have hfont : Text.segments '.' fontPath = ["font", "family"] := by decide
  refine ⟨get?_foldl_overlay base overlays path, ⟨_, ?_, rfl⟩, ⟨_, ?_, rfl⟩⟩
  · rw [← hcolor, foldl_withSite]
    exact get?_foldl_overlay standard (sites.map document) colorPath
  · rw [← hfont, foldl_withSite]
    exact get?_foldl_overlay standard (sites.map document) fontPath

-- A site without an object on the way to the color hides what sites before it say, and brings back the
-- color that is built in. One that only speaks of other things hides nothing.
example :
    ([⟨.object [("highlight", .object [("color", .string "red")])]⟩, ⟨.object [("highlight", .null)]⟩,
      ⟨.object [("highlight", .object [("width", .null)])]⟩].foldl withSite standard).color = "orange" := by
  decide +kernel

end Style

end Statechart
