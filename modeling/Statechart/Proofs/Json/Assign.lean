import Mathlib.Data.List.Infix
import Statechart.Proofs.Json.Overlay

namespace Statechart.Json

-- Neither of two paths is a part of the other: they go different ways somewhere.
def Apart (path other : List String) : Prop :=
  ¬path <+: other ∧ ¬other <+: path

theorem apart_cons_iff (key : String) (path other : List String) :
    Apart (key :: path) (key :: other) ↔ Apart path other := by
  simp [Apart, List.cons_prefix_cons]

theorem not_apart_nil (path : List String) : ¬Apart path [] :=
  fun h => h.2 (List.nil_prefix)

theorem follow_object_cons (members : Members) (key : String) (rest : List String) :
    (object members).follow (key :: rest) = (Table.get? members key).bind (·.follow rest) := rfl

theorem follow_assign_self (members : Members) (value : Json) {path : List String} (h : path ≠ []) :
    (object (assign members value path)).follow path = some value := by
  fun_induction assign members value path with
  | case1 => exact absurd rfl h
  | case2 members key => rw [follow_object_cons, Table.get?_put, if_pos rfl]; rfl
  | case3 members key next rest inner ih =>
      rw [follow_object_cons, Table.get?_put, if_pos rfl]
      exact ih (List.cons_ne_nil next rest)

-- A value that is put at a path changes nothing of what paths apart from it lead to, even where it makes
-- objects of what stands on its way.
theorem follow_assign_of_apart (members : Members) (value : Json) {path other : List String} (h : Apart path other) :
    (object (assign members value path)).follow other = (object members).follow other := by
  induction path generalizing members other with
  | nil => exact absurd List.nil_prefix h.1
  | cons key rest ih =>
      cases other with
      | nil => exact absurd h (not_apart_nil _)
      | cons wanted back =>
          cases rest with
          | nil =>
              have hne : wanted ≠ key := by
                rintro rfl
                exact h.1 (List.cons_prefix_cons.mpr ⟨rfl, List.nil_prefix⟩)
              rw [assign, follow_object_cons, Table.get?_put, if_neg hne, follow_object_cons]
          | cons next rest =>
              rw [assign, follow_object_cons, Table.get?_put, follow_object_cons]
              by_cases hkey : wanted = key
              · subst hkey
                have hback := (apart_cons_iff wanted (next :: rest) back).mp h
                rw [if_pos rfl, Option.bind_some, ih _ hback]
                cases back with
                | nil => exact absurd hback (not_apart_nil _)
                | cons first back => cases Table.get? members wanted <;> rfl
              · rw [if_neg hkey]

-- Of two values put at one path the second is there, and all else is as if the first had never been.
theorem assign_assign (members : Members) (old new : Json) (path : List String) :
    assign (assign members old path) new path = assign members new path := by
  induction path generalizing members with
  | nil => rfl
  | cons key rest ih =>
      cases rest with
      | nil => exact Table.put_put members key old new
      | cons next rest =>
          rw [assign, assign, assign, Table.get?_put, if_pos rfl, Option.map_some, Option.getD_some, Json.members,
            Table.put_put, ih]

theorem keys_prefix_assign (members : Members) (value : Json) (path : List String) :
    Table.keys members <+: Table.keys (assign members value path) := by
  cases path with
  | nil => exact List.prefix_rfl
  | cons key rest => cases rest <;> exact Table.keys_prefix_put members key _

-- A step down in a document: to what stands with a key, or to an element of an array.
inductive Step where
  | key (key : String)
  | index (i : Nat)

-- What stands at a place in a document, in arrays too.
def at? : Json → List Step → Option Json
  | j, [] => some j
  | j, .key key :: rest => (j.get? key).bind (at? · rest)
  | .array elements, .index i :: rest => elements[i]?.bind (at? · rest)
  | _, .index _ :: _ => none

theorem at?_object_key (members : Members) (key : String) (rest : List Step) :
    (object members).at? (.key key :: rest) = (Table.get? members key).bind (·.at? rest) := rfl

-- What is no object holds objects in an array only.
theorem exists_index_of_at? {document : Json} (h : document.isObject = false) {place : List Step} {members : Members}
    (hplace : document.at? place = some (.object members)) : ∃ i rest, place = .index i :: rest := by
  cases place with
  | nil =>
      obtain rfl : document = .object members := Option.some.inj hplace
      simp [isObject] at h
  | cons step rest =>
      cases step with
      | index i => exact ⟨i, rest, rfl⟩
      | key key =>
          obtain ⟨value, hvalue, -⟩ := Option.bind_eq_some_iff.mp hplace
          obtain ⟨inner, rfl, -⟩ := (get?_eq_some_iff document key value).mp hvalue
          simp [isObject] at h

-- Below a path stands what there is below the value that was put there.
theorem at?_assign_within (members : Members) (value : Json) {path : List String} (h : path ≠ []) (rest : List Step) :
    (object (assign members value path)).at? (path.map .key ++ rest) = value.at? rest := by
  fun_induction assign members value path with
  | case1 => exact absurd rfl h
  | case2 members key =>
      rw [List.map_singleton, List.singleton_append, at?_object_key, Table.get?_put, if_pos rfl, Option.bind_some]
  | case3 members key next back inner ih =>
      rw [List.map_cons, List.cons_append, at?_object_key, Table.get?_put, if_pos rfl, Option.bind_some]
      exact ih (List.cons_ne_nil next back)

theorem at?_assign_of_ne (members : Members) (value : Json) {key wanted : String} (h : wanted ≠ key)
    (rest : List String) (back : List Step) :
    (object (assign members value (key :: rest))).at? (.key wanted :: back) =
      (object members).at? (.key wanted :: back) := by
  cases rest <;> rw [assign, at?_object_key, Table.get?_put, if_neg h, at?_object_key]

-- Anywhere else an object that is still one has all its keys where they were, and new ones behind them.
theorem keys_prefix_of_at?_assign {members : Members} {value : Json} {path : List String} {place : List Step}
    {old new : Members} (hplace : ¬path.map .key <+: place) (hold : (object members).at? place = some (.object old))
    (hnew : (object (assign members value path)).at? place = some (.object new)) :
    Table.keys old <+: Table.keys new := by
  induction path generalizing members place with
  | nil => exact absurd List.nil_prefix hplace
  | cons key rest ih =>
      cases place with
      | nil =>
          obtain rfl : members = old := by simpa [at?] using hold
          obtain rfl : assign members value (key :: rest) = new := by simpa [at?] using hnew
          exact keys_prefix_assign members value (key :: rest)
      | cons step back =>
          cases step with
          | index i => simp [at?] at hold
          | key wanted =>
              by_cases hkey : wanted = key
              · subst hkey
                rw [List.map_cons, List.cons_prefix_cons, not_and] at hplace
                rw [at?_object_key] at hold
                obtain ⟨found, hfound, hback⟩ := Option.bind_eq_some_iff.mp hold
                cases rest with
                | nil => exact absurd List.nil_prefix (hplace rfl)
                | cons next rest =>
                    rw [assign, at?_object_key, Table.get?_put, if_pos rfl, hfound] at hnew
                    by_cases hobject : found.isObject = true
                    · obtain ⟨inner, rfl⟩ := (isObject_iff found).mp hobject
                      exact ih (hplace rfl) hback hnew
                    · -- it gave place to an object, in which there is no array yet
                      obtain ⟨i, tail, rfl⟩ := exists_index_of_at? (Bool.not_eq_true _ ▸ hobject) hback
                      simp [at?] at hnew
              · rw [at?_assign_of_ne members value hkey, hold] at hnew
                cases hnew
                exact List.prefix_rfl

end Statechart.Json
