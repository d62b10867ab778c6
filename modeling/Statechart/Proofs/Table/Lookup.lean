import Mathlib.Logic.Basic
import Statechart.Table

namespace Statechart.Table

variable {α : Type}

theorem hasKey_eq_isSome (entries : List (String × α)) (key : String) :
    hasKey entries key = (get? entries key).isSome := by
  induction entries with
  | nil => rfl
  | cons entry rest ih =>
      obtain ⟨k, value⟩ := entry
      simp only [hasKey, keys, get?, List.map_cons, List.contains_cons, List.lookup_cons] at ih ⊢
      cases key == k with
      | true => rfl
      | false => rw [Bool.false_or, ih]

-- A key that is looked for is not among those that are left out.
theorem get?_filter_hasKey (entries out : List (String × α)) {key : String} (h : hasKey out key = false) :
    get? (entries.filter fun entry => !hasKey out entry.1) key = get? entries key := by
  induction entries with
  | nil => rfl
  | cons entry rest ih =>
      obtain ⟨k, value⟩ := entry
      by_cases hk : key = k
      · subst hk
        rw [List.filter_cons_of_pos (by simp [h])]
        simp [get?]
      · have hne : (key == k) = false := beq_false_of_ne hk
        unfold get? at ih ⊢
        rw [List.filter_cons, List.lookup_cons, hne, ← ih]
        split
        · rw [List.lookup_cons, hne]
        · rfl

theorem get?_cons (key : String) (value : α) (rest : List (String × α)) (wanted : String) :
    get? ((key, value) :: rest) wanted = if wanted = key then some value else get? rest wanted := by
  by_cases h : wanted = key
  · simp [get?, h]
  · have hne : (wanted == key) = false := beq_false_of_ne h
    rw [if_neg h, get?, List.lookup_cons, hne, get?]

theorem get?_put (entries : List (String × α)) (key : String) (value : α) (wanted : String) :
    get? (put entries key value) wanted = if wanted = key then some value else get? entries wanted := by
  induction entries with
  | nil => exact get?_cons key value [] wanted
  | cons entry rest ih =>
      obtain ⟨k, old⟩ := entry
      rw [put]
      by_cases hk : k = key
      · subst hk
        rw [if_pos rfl, get?_cons, get?_cons]
        split <;> rfl
      · rw [if_neg hk, get?_cons, get?_cons, ih]
        by_cases h : wanted = k
        · rw [if_pos h, if_pos h, if_neg (h ▸ hk)]
        · rw [if_neg h, if_neg h]

-- A second value for a key takes the place of the first.
theorem put_put (entries : List (String × α)) (key : String) (old new : α) :
    put (put entries key old) key new = put entries key new := by
  induction entries with
  | nil => simp [put]
  | cons entry rest ih =>
      obtain ⟨k, value⟩ := entry
      by_cases hk : k = key
      · simp [put, hk]
      · simp [put, hk, ih]

theorem keys_put (entries : List (String × α)) (key : String) (value : α) :
    keys (put entries key value) = if key ∈ keys entries then keys entries else keys entries ++ [key] := by
  induction entries with
  | nil => rfl
  | cons entry rest ih =>
      obtain ⟨k, old⟩ := entry
      by_cases hk : k = key
      · simp [put, keys, hk]
      · have hkeys : keys (put ((k, old) :: rest) key value) = k :: keys (put rest key value) := by
          rw [put, if_neg hk]
          rfl
        rw [hkeys, ih]
        have hmem : key ∈ keys ((k, old) :: rest) ↔ key ∈ keys rest := by simp [keys, Ne.symm hk]
        simp only [hmem]
        split <;> rfl

theorem keys_prefix_put (entries : List (String × α)) (key : String) (value : α) :
    keys entries <+: keys (put entries key value) := by
  rw [keys_put]
  split
  · exact List.prefix_rfl
  · exact List.prefix_append _ _

theorem get?_append (entries others : List (String × α)) (key : String) :
    get? (entries ++ others) key = (get? entries key).or (get? others key) :=
  List.lookup_append

theorem mem_of_get?_eq_some {entries : List (String × α)} {key : String} {value : α}
    (h : get? entries key = some value) : (key, value) ∈ entries := by
  obtain ⟨before, after, rfl, -⟩ := List.lookup_eq_some_iff.mp h
  simp

theorem get?_eq_none_iff (entries : List (String × α)) (key : String) :
    get? entries key = none ↔ key ∉ keys entries := by
  rw [← Option.not_isSome_iff_eq_none, ← hasKey_eq_isSome, hasKey, List.contains_iff_mem]

-- Where no key occurs twice, a key leads to whatever it stands with.
theorem get?_eq_some_iff_mem {entries : List (String × α)} (h : (keys entries).Nodup) (key : String) (value : α) :
    get? entries key = some value ↔ (key, value) ∈ entries := by
  refine ⟨mem_of_get?_eq_some, fun hm => ?_⟩
  induction entries with
  | nil => simp at hm
  | cons entry rest ih =>
      obtain ⟨k, old⟩ := entry
      obtain ⟨hfresh, hrest⟩ := List.nodup_cons.mp h
      rw [get?_cons]
      rcases List.mem_cons.mp hm with heq | hlater
      · obtain ⟨rfl, rfl⟩ := Prod.mk.inj heq
        rw [if_pos rfl]
      · have hne : key ≠ k := by
          rintro rfl
          exact hfresh (List.mem_map.mpr ⟨_, hlater, rfl⟩)
        rw [if_neg hne]
        exact ih hrest hlater

theorem eq_of_mem_of_get? {entries : List (String × α)} (h : (keys entries).Nodup) {key : String} {value other : α}
    (hm : (key, value) ∈ entries) (hother : get? entries key = some other) : value = other := by
  rw [(get?_eq_some_iff_mem h key value).mpr hm] at hother
  exact Option.some.inj hother

theorem get?_eq_of_perm {entries others : List (String × α)} (h : entries.Perm others) (hnodup : (keys entries).Nodup)
    (key : String) : get? entries key = get? others key := by
  have hothers : (keys others).Nodup := (h.map Prod.fst).nodup hnodup
  ext value
  rw [get?_eq_some_iff_mem hnodup, get?_eq_some_iff_mem hothers, h.mem_iff]

-- Where no key occurs twice, the value of one that is there is changed, and nothing else.
theorem put_of_mem {entries : List (String × α)} (h : (keys entries).Nodup) {key : String} (hkey : key ∈ keys entries)
    (value : α) : put entries key value = entries.map fun entry => if entry.1 = key then (key, value) else entry := by
  induction entries with
  | nil => simp [keys] at hkey
  | cons entry rest ih =>
      obtain ⟨k, old⟩ := entry
      obtain ⟨hfresh, hrest⟩ := List.nodup_cons.mp h
      rw [put, List.map_cons]
      by_cases hk : k = key
      · subst hk
        have hsame : (rest.map fun entry => if entry.1 = k then (k, value) else entry) = rest := by
          refine (List.map_congr_left fun entry hm => ?_).trans (List.map_id rest)
          exact if_neg fun (heq : entry.1 = k) => hfresh (List.mem_map.mpr ⟨entry, hm, heq⟩)
        rw [if_pos rfl, if_pos rfl, hsame]
      · have hlater : key ∈ keys rest := (List.mem_cons.mp hkey).resolve_left (Ne.symm hk)
        rw [if_neg hk, if_neg hk, ih hrest hlater]

theorem put_of_notMem {entries : List (String × α)} {key : String} (h : key ∉ keys entries)
    (value : α) : put entries key value = entries ++ [(key, value)] := by
  induction entries with
  | nil => rfl
  | cons entry rest ih =>
      obtain ⟨hne, hrest⟩ := not_or.mp (List.mem_cons.not.mp h)
      rw [put, if_neg (Ne.symm hne), ih hrest]
      rfl

end Statechart.Table
