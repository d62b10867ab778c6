import Statechart.Proofs.Json.Assign
import Statechart.Style

namespace Statechart.Style

variable {s : Style} {path : String}

theorem set_of_object (members : Json.Members) (path : String) (value : Json) :
    (⟨.object members⟩ : Style).set path value =
      ⟨.object (Json.assign members value (Text.segments '.' path))⟩ := rfl

theorem exists_members (h : s.document.isObject = true) : ∃ members, s = ⟨.object members⟩ := by
  obtain ⟨members, hmembers⟩ := (Json.isObject_iff _).mp h
  exact ⟨members, congrArg Style.mk hmembers⟩

theorem set_of_not_isObject (h : s.document.isObject = false) (path : String) (value : Json) : s.set path value = s := by
  obtain ⟨document⟩ := s
  cases document with
  | object members => simp [Json.isObject] at h
  | _ => rfl

theorem isObject_set (h : s.document.isObject = true) (path : String) (value : Json) :
    (s.set path value).document.isObject = true := by
  obtain ⟨members, rfl⟩ := exists_members h
  rfl

theorem follow_set_self (h : s.document.isObject = true) (path : String) (value : Json) :
    (s.set path value).document.follow (Text.segments '.' path) = some value := by
  obtain ⟨members, rfl⟩ := exists_members h
  exact Json.follow_assign_self members value (Text.segments_ne_nil '.' path)

theorem get?_set_self (h : s.document.isObject = true) (path text : String) :
    (s.set path (.string text)).get? path = some text := by
  rw [get?, Json.followString, follow_set_self h]

theorem follow_set_of_apart (s : Style) {path : String} (value : Json) {other : List String}
    (h : Json.Apart (Text.segments '.' path) other) :
    (s.set path value).document.follow other = s.document.follow other := by
  by_cases hobject : s.document.isObject = true
  · obtain ⟨members, rfl⟩ := exists_members hobject
    exact Json.follow_assign_of_apart members value h
  · rw [set_of_not_isObject (Bool.not_eq_true _ ▸ hobject)]

theorem set_set (s : Style) (path : String) (old new : Json) : (s.set path old).set path new = s.set path new := by
  by_cases hobject : s.document.isObject = true
  · obtain ⟨members, rfl⟩ := exists_members hobject
    rw [set_of_object, set_of_object, Json.assign_assign, set_of_object]
  · rw [set_of_not_isObject (Bool.not_eq_true _ ▸ hobject) path old]

-- An object keeps its keys in their places, except where the value itself was put.
theorem keys_prefix_set {value : Json} {place : List Json.Step} {old new : Json.Members}
    (hplace : ¬(Text.segments '.' path).map .key <+: place) (hold : s.document.at? place = some (.object old))
    (hnew : (s.set path value).document.at? place = some (.object new)) : Table.keys old <+: Table.keys new := by
  by_cases hobject : s.document.isObject = true
  · obtain ⟨members, rfl⟩ := exists_members hobject
    exact Json.keys_prefix_of_at?_assign hplace hold hnew
  · rw [set_of_not_isObject (Bool.not_eq_true _ ▸ hobject), hold] at hnew
    cases hnew
    exact List.prefix_rfl

-- Where a text was put there is no object.
theorem not_prefix_of_at?_set_string (h : s.document.isObject = true) {text : String} {place : List Json.Step}
    {new : Json.Members} (hnew : (s.set path (.string text)).document.at? place = some (.object new)) :
    ¬(Text.segments '.' path).map .key <+: place := by
  rintro ⟨rest, rfl⟩
  obtain ⟨members, rfl⟩ := exists_members h
  rw [set_of_object, Json.at?_assign_within members _ (Text.segments_ne_nil '.' path)] at hnew
  cases rest with
  | nil => simp [Json.at?] at hnew
  | cons step rest => cases step <;> simp [Json.at?, Json.get?, Json.members, Table.get?] at hnew

-- A style that is an object is a lens on each dotted path. What is put there is read, a second value
-- takes the place of the first, paths that part from it read as before, and every object that is one
-- still, in arrays too, has its keys first and new ones behind them. Any other style takes no value.
theorem set_lens (s : Style) (path : String) :
    (s.document.isObject = true →
      (∀ text, (s.set path (.string text)).get? path = some text) ∧
        (∀ old new, (s.set path old).set path new = s.set path new) ∧
        (∀ value other, Json.Apart (Text.segments '.' path) (Text.segments '.' other) →
          (s.set path value).get? other = s.get? other) ∧
        (∀ value place old new, s.document.at? place = some (.object old) →
          (s.set path value).document.at? place = some (.object new) →
            (∃ text, value = .string text) ∨ ¬(Text.segments '.' path).map .key <+: place →
              Table.keys old <+: Table.keys new) ∧
        ∀ value, (s.set path value).document.isObject = true) ∧
      (s.document.isObject = false → ∀ value, s.set path value = s) := by
  refine ⟨fun hobject => ⟨get?_set_self hobject path, set_set s path, ?_, ?_, isObject_set hobject path⟩, ?_⟩
  · intro value other hapart
    rw [get?, get?, Json.followString, follow_set_of_apart s value hapart, Json.followString]
  · rintro value place old new hold hnew (⟨text, rfl⟩ | hplace)
    · exact keys_prefix_set (not_prefix_of_at?_set_string hobject hnew) hold hnew
    · exact keys_prefix_set hplace hold hnew
  · exact fun hroot => set_of_not_isObject hroot path

-- A style with a truth value where a path goes on, and with an object in an array.
def crowdedStyle : Style where
  document := .object [("font", .bool true), ("width", .null), ("sizes", .array [.object [("a", .null), ("b", .null)]])]

theorem set_lens_crowdedStyle :
    let set := crowdedStyle.set "font..family" (.string "Serif")
    set.get? "font..family" = some "Serif" ∧ set.get? "width" = crowdedStyle.get? "width" ∧
      (∃ members, set.document = .object members ∧ ["font", "width", "sizes"] <+: Table.keys members) ∧
        ∃ sized, set.document.at? [.key "sizes", .index 0] = some (.object sized) ∧ ["a", "b"] <+: Table.keys sized := by
  intro set
  obtain ⟨hget, -, hapart, hkeys, -⟩ := (set_lens crowdedStyle "font..family").1 rfl
  have hwidth : Json.Apart (Text.segments '.' "font..family") (Text.segments '.' "width") := by
    unfold Json.Apart
    decide
  exact ⟨hget "Serif", hapart _ "width" hwidth,
    ⟨_, rfl, hkeys (.string "Serif") [] _ _ rfl rfl (.inl ⟨"Serif", rfl⟩)⟩,
    ⟨_, rfl, hkeys (.string "Serif") [.key "sizes", .index 0] _ _ rfl rfl (.inl ⟨"Serif", rfl⟩)⟩⟩

end Statechart.Style
