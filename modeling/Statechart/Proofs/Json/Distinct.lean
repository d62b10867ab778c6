import Statechart.Proofs.Json.Overlay

namespace Statechart.Json

theorem elementsDistinct_iff (elements : List Json) :
    ElementsDistinct elements ↔ ∀ element ∈ elements, element.DistinctKeys := by
  induction elements with
  | nil => simp [ElementsDistinct]
  | cons element rest ih => simp [ElementsDistinct, ih]

theorem membersDistinct_iff (members : Members) :
    MembersDistinct members ↔ ∀ member ∈ members, member.2.DistinctKeys := by
  induction members with
  | nil => simp [MembersDistinct]
  | cons member rest ih => simp [MembersDistinct, ih]

theorem distinctKeys_object_iff (members : Members) :
    (object members).DistinctKeys ↔ (Table.keys members).Nodup ∧ ∀ member ∈ members, member.2.DistinctKeys := by
  rw [DistinctKeys, membersDistinct_iff]

namespace DistinctKeys

theorem of_get? {members : Members} (h : (object members).DistinctKeys) {key : String} {value : Json}
    (hvalue : Table.get? members key = some value) : value.DistinctKeys :=
  ((distinctKeys_object_iff members).mp h).2 _ (Table.mem_of_get?_eq_some hvalue)

theorem of_follow {document : Json} (h : document.DistinctKeys) {path : List String} {found : Json}
    (hfound : document.follow path = some found) : found.DistinctKeys := by
  induction path generalizing document with
  | nil => exact Option.some.inj hfound ▸ h
  | cons key rest ih =>
      obtain ⟨value, hvalue, hrest⟩ := Option.bind_eq_some_iff.mp hfound
      obtain ⟨members, rfl, hmember⟩ := (get?_eq_some_iff document key value).mp hvalue
      exact ih (h.of_get? hmember) hrest

end DistinctKeys

-- Induction over the objects of a document, as they are laid over each other: from the values of an object
-- to the object. Whatever is no object, arrays too, is taken as a whole.
@[elab_as_elim]
theorem induction_members {motive : Json → Prop} (whole : ∀ document, document.isObject = false → motive document)
    (object : ∀ members, (∀ member ∈ members, motive member.2) → motive (.object members)) :
    ∀ document, motive document
  | .object members => object members fun (_, value) _ => induction_members whole object value
  | .null => whole _ rfl
  | .bool _ => whole _ rfl
  | .number _ => whole _ rfl
  | .string _ => whole _ rfl
  | .array _ => whole _ rfl
termination_by document => sizeOf document
decreasing_by
  rename_i hmember
  have hlt := List.sizeOf_lt_of_mem hmember
  simp only [Prod.mk.sizeOf_spec, Json.object.sizeOf_spec] at hlt ⊢
  omega

end Statechart.Json
