import Mathlib.Tactic.Push
import Statechart.Json.Merge
import Statechart.Json.Path
import Statechart.Proofs.Table.Lookup

namespace Statechart.Json

theorem isObject_iff (document : Json) : document.isObject = true ↔ ∃ members, document = .object members := by
  cases document <;> simp [isObject]

theorem get?_object (members : Members) (key : String) : (object members).get? key = Table.get? members key := rfl

-- Only an object has something at a key.
theorem get?_eq_some_iff (document : Json) (key : String) (value : Json) :
    document.get? key = some value ↔ ∃ members, document = .object members ∧ Table.get? members key = some value := by
  cases document with
  | object members => simp [get?_object]
  | _ => simp [get?, Table.get?, Json.members]

theorem get?_mergeMembers (base overlay : Members) (key : String) :
    Table.get? (mergeMembers base overlay) key =
      (Table.get? base key).map fun value => ((Table.get? overlay key).map value.merge).getD value := by
  induction base with
  | nil => rfl
  | cons member rest ih =>
      obtain ⟨k, value⟩ := member
      simp only [mergeMembers, Table.get?, List.lookup_cons] at ih ⊢
      by_cases hk : key = k
      · subst hk
        simp only [beq_self_eq_true, Option.map_some]
        cases List.lookup key overlay <;> rfl
      · simp only [beq_false_of_ne hk, ih]

-- A key of both objects leads to the merge of what it led to, a key of one object to what it led to.
theorem get?_merge (base overlay : Members) (key : String) :
    ((object base).merge (.object overlay)).get? key =
      match Table.get? base key with
      | some value => some (((Table.get? overlay key).map value.merge).getD value)
      | none => Table.get? overlay key := by
  have happend : ((object base).merge (.object overlay)).get? key =
      (Table.get? (mergeMembers base overlay) key).or
        (Table.get? (overlay.filter fun member => !Table.hasKey base member.1) key) := by
    rw [merge]
    exact List.lookup_append
  rw [happend, get?_mergeMembers]
  cases hbase : Table.get? base key with
  | some value => rfl
  | none =>
      have hkey : Table.hasKey base key = false := by rw [Table.hasKey_eq_isSome, hbase]; rfl
      exact Table.get?_filter_hasKey overlay base hkey

-- Only two objects are merged. Any other overlay is taken as it is.
theorem merge_cases (base overlay : Json) :
    (∃ old new, base = .object old ∧ overlay = .object new) ∨ base.merge overlay = overlay := by
  cases base <;> cases overlay <;> simp [merge]

theorem followString_cons (j : Json) (key : String) (rest : List String) :
    j.followString (key :: rest) = (j.get? key).bind (·.followString rest) := by
  unfold followString
  rw [follow]
  cases j.get? key <;> rfl

theorem follow_append (j : Json) (front back : List String) :
    j.follow (front ++ back) = (j.follow front).bind (·.follow back) := by
  induction front generalizing j with
  | nil => rfl
  | cons key rest ih =>
      rw [List.cons_append, follow, follow]
      cases j.get? key with
      | none => rfl
      | some value => exact ih value

-- A document leaves a path open when the path leads to an object in it that lacks the next key.
def LeavesOpen (document : Json) (path : List String) : Prop :=
  ∃ front key back members, path = front ++ key :: back ∧ document.follow front = some (.object members) ∧
    Table.get? members key = none

theorem not_leavesOpen_nil (document : Json) : ¬document.LeavesOpen [] := by
  rintro ⟨front, key, back, -, hpath, -⟩
  simp at hpath

-- Only an object leaves a path open: at its first key, or in what stands there.
theorem leavesOpen_cons_iff (document : Json) (key : String) (rest : List String) :
    document.LeavesOpen (key :: rest) ↔
      ∃ members, document = .object members ∧ ∀ value, Table.get? members key = some value → value.LeavesOpen rest := by
  constructor
  · rintro ⟨front, missing, back, members, hpath, hfollow, hmissing⟩
    cases front with
    | nil =>
        obtain ⟨rfl, -⟩ := List.cons.inj hpath
        refine ⟨members, Option.some.inj hfollow, fun value hvalue => ?_⟩
        rw [hmissing] at hvalue
        simp at hvalue
    | cons first front =>
        obtain ⟨rfl, rfl⟩ := List.cons.inj hpath
        rw [follow] at hfollow
        obtain ⟨value, hvalue, hinner⟩ := Option.bind_eq_some_iff.mp hfollow
        obtain ⟨outer, rfl, hvalue⟩ := (get?_eq_some_iff document key value).mp hvalue
        refine ⟨outer, rfl, fun other hother => ?_⟩
        obtain rfl : value = other := Option.some.inj (hvalue.symm.trans hother)
        exact ⟨front, missing, back, members, rfl, hinner, hmissing⟩
  · rintro ⟨members, rfl, hinner⟩
    cases hvalue : Table.get? members key with
    | none => exact ⟨[], key, rest, members, rfl, rfl, hvalue⟩
    | some value =>
        obtain ⟨front, missing, back, inner, rfl, hfollow, hmissing⟩ := hinner value hvalue
        refine ⟨key :: front, missing, back, inner, rfl, ?_, hmissing⟩
        rw [follow, get?_object, hvalue]
        exact hfollow

theorem followString_of_leavesOpen {document : Json} {path : List String} (h : document.LeavesOpen path) :
    document.followString path = none := by
  obtain ⟨front, key, back, members, rfl, hfollow, hmissing⟩ := h
  rw [followString, follow_append, hfollow, Option.bind_some, follow, get?_object, hmissing]
  rfl

-- An overlay that leaves a path open changes nothing of what is found along it.
theorem followString_merge_of_leavesOpen {base overlay : Json} {path : List String} (h : overlay.LeavesOpen path) :
    (base.merge overlay).followString path = base.followString path := by
  induction path generalizing base overlay with
  | nil => exact absurd h (not_leavesOpen_nil overlay)
  | cons key rest ih =>
      have hnone := followString_of_leavesOpen h
      obtain ⟨new, rfl, hinner⟩ := (leavesOpen_cons_iff _ _ _).mp h
      cases base with
      | object old =>
          rw [followString_cons, get?_object] at hnone
          rw [followString_cons, followString_cons, get?_merge, get?_object]
          cases hold : Table.get? old key with
          | none => exact hnone
          | some value =>
              cases hnew : Table.get? new key with
              | none => rfl
              | some other => exact ih (hinner other hnew)
      | _ => exact hnone

-- Any other overlay settles it, whatever the base.
theorem followString_merge_of_not_leavesOpen {base overlay : Json} {path : List String}
    (h : ¬overlay.LeavesOpen path) : (base.merge overlay).followString path = overlay.followString path := by
  induction path generalizing base overlay with
  | nil =>
      rcases merge_cases base overlay with ⟨old, new, rfl, rfl⟩ | hmerge
      · simp [merge, followString, follow]
      · rw [hmerge]
  | cons key rest ih =>
      rcases merge_cases base overlay with ⟨old, new, rfl, rfl⟩ | hmerge
      · rw [leavesOpen_cons_iff] at h
        push Not at h
        obtain ⟨other, hnew, hother⟩ := h new rfl
        rw [followString_cons, followString_cons, get?_merge, get?_object, hnew]
        cases Table.get? old key with
        | none => rfl
        | some value => exact ih hother
      · rw [hmerge]

-- A text at the end of a path through merged documents was at its end in one of the two.
theorem followString_merge {base overlay : Json} {path : List String} {text : String}
    (h : (base.merge overlay).followString path = some text) :
    base.followString path = some text ∨ overlay.followString path = some text := by
  by_cases hopen : overlay.LeavesOpen path
  · exact .inl (followString_merge_of_leavesOpen hopen ▸ h)
  · exact .inr (followString_merge_of_not_leavesOpen hopen ▸ h)

end Statechart.Json
