import Mathlib.Data.List.Basic

namespace Statechart

section LastWith

variable {α β σ : Type}

-- The element of a list that has a property and comes after all others that have it.
def LastWith (p : α → Prop) (xs : List α) (x : α) : Prop :=
  ∃ before after, xs = before ++ x :: after ∧ p x ∧ ∀ later ∈ after, ¬p later

theorem LastWith.mem {p : α → Prop} {xs : List α} {x : α} (h : LastWith p xs x) : x ∈ xs := by
  obtain ⟨before, after, rfl, -, -⟩ := h
  simp

theorem LastWith.concat {p : α → Prop} {xs : List α} {x y : α} (h : LastWith p xs x) (hy : ¬p y) :
    LastWith p (xs ++ [y]) x := by
  obtain ⟨before, after, rfl, hx, hlater⟩ := h
  refine ⟨before, after ++ [y], by simp, hx, fun later hm => ?_⟩
  rcases List.mem_append.mp hm with hafter | hlast
  · exact hlater later hafter
  · exact List.mem_singleton.mp hlast ▸ hy

theorem lastWith_concat {p : α → Prop} {x : α} (hx : p x) (xs : List α) : LastWith p (xs ++ [x]) x :=
  ⟨xs, [], rfl, hx, by simp⟩

-- A search from the back comes upon the last element that it finds something at.
theorem findSome?_reverse_eq_some_iff (write : α → Option β) (xs : List α) (b : β) :
    xs.reverse.findSome? write = some b ↔
      ∃ x, LastWith (fun x => ∃ b, write x = some b) xs x ∧ write x = some b := by
  rw [List.findSome?_eq_some_iff]
  constructor
  · rintro ⟨behind, x, front, hxs, hx, hbehind⟩
    refine ⟨x, ⟨front.reverse, behind.reverse, ?_, ⟨b, hx⟩, ?_⟩, hx⟩
    · simpa using congrArg List.reverse hxs
    · rintro later hlater ⟨c, hc⟩
      simp [hbehind later (List.mem_reverse.mp hlater)] at hc
  · rintro ⟨x, ⟨before, after, rfl, -, hlater⟩, hx⟩
    refine ⟨after.reverse, x, before.reverse, by simp, hx, ?_⟩
    intro other hm
    cases hwrite : write other with
    | none => rfl
    | some c => exact absurd ⟨c, hwrite⟩ (hlater other (List.mem_reverse.mp hm))

theorem findSome?_reverse_eq_none_iff (write : α → Option β) (xs : List α) :
    xs.reverse.findSome? write = none ↔ ∀ x ∈ xs, ∀ b, write x ≠ some b := by
  rw [List.findSome?_eq_none_iff]
  simp only [List.mem_reverse, Option.eq_none_iff_forall_ne_some]

-- A pass that overwrites a part of its state, or leaves it, ends with the last write.
theorem foldl_lastWrite {step : σ → α → σ} {view : σ → Option β} {write : α → Option β}
    (h : ∀ s x, view (step s x) = (write x).or (view s)) (s : σ) (xs : List α) :
    view (xs.foldl step s) = (xs.reverse.findSome? write).or (view s) := by
  induction xs generalizing s with
  | nil => simp
  | cons x rest ih => simp [ih, h, List.findSome?_append, Option.or_assoc]

theorem foldl_unwritten {step : σ → α → σ} {view : σ → Option β} (h : ∀ s x, view (step s x) = view s)
    (s : σ) (xs : List α) : view (xs.foldl step s) = view s := by
  induction xs generalizing s with
  | nil => rfl
  | cons x rest ih => rw [List.foldl_cons, ih, h]

end LastWith

section Order

variable {α β : Type}

theorem find?_beq [DecidableEq α] (xs : List α) (a : α) : xs.find? (· == a) = if a ∈ xs then some a else none := by
  induction xs with
  | nil => rfl
  | cons x rest ih =>
      by_cases hx : x = a
      · simp [hx]
      · simp [hx, Ne.symm hx, ih]

-- Lists of equal elements have no order.
theorem eq_of_perm_of_same {xs ys : List α} (h : xs.Perm ys) (hsame : ∀ a ∈ xs, ∀ b ∈ xs, a = b) : xs = ys := by
  have hunordered (zs : List α) : zs.Pairwise fun _ _ => True := List.pairwise_of_forall fun _ _ => trivial
  refine List.Perm.eq_of_pairwise ?_ (hunordered xs) (hunordered ys) h
  intro a b ha hb _ _
  exact hsame a ha b (h.mem_iff.mpr hb)

-- A search that can come upon one thing only comes upon it in any order.
theorem find?_eq_of_perm {p : α → Bool} {xs ys : List α} (h : xs.Perm ys)
    (hsame : ∀ a ∈ xs, ∀ b ∈ xs, p a = true → p b = true → a = b) : xs.find? p = ys.find? p := by
  have hfilter : xs.filter p = ys.filter p := by
    refine eq_of_perm_of_same (h.filter p) fun a ha b hb => ?_
    obtain ⟨ha, hpa⟩ := List.mem_filter.mp ha
    obtain ⟨hb, hpb⟩ := List.mem_filter.mp hb
    exact hsame a ha b hb hpa hpb
  rw [← List.head?_filter, hfilter, List.head?_filter]

theorem findSome?_eq_of_perm {find : α → Option β} {xs ys : List α} (h : xs.Perm ys)
    (hsame : ∀ x ∈ xs, ∀ y ∈ xs, (find x).isSome = true → (find y).isSome = true → x = y) :
    xs.findSome? find = ys.findSome? find := by
  have hfound : xs.filterMap find = ys.filterMap find := by
    refine eq_of_perm_of_same (h.filterMap find) fun a ha b hb => ?_
    obtain ⟨x, hx, hxa⟩ := List.mem_filterMap.mp ha
    obtain ⟨y, hy, hyb⟩ := List.mem_filterMap.mp hb
    have hxy := hsame x hx y hy (Option.isSome_of_eq_some hxa) (Option.isSome_of_eq_some hyb)
    rw [hxy, hyb] at hxa
    exact (Option.some.inj hxa).symm
  rw [← List.head?_filterMap, hfound, List.head?_filterMap]

theorem eq_of_countP_le_one {p : α → Bool} {xs : List α} (h : xs.countP p ≤ 1) {x y : α} (hx : x ∈ xs) (hy : y ∈ xs)
    (hpx : p x = true) (hpy : p y = true) : x = y := by
  rw [List.countP_eq_length_filter] at h
  have hfx : x ∈ xs.filter p := List.mem_filter.mpr ⟨hx, hpx⟩
  have hfy : y ∈ xs.filter p := List.mem_filter.mpr ⟨hy, hpy⟩
  obtain ⟨only, honly⟩ := List.length_eq_one_iff.mp (Nat.le_antisymm h (List.length_pos_of_mem hfx))
  rw [honly, List.mem_singleton] at hfx hfy
  rw [hfx, hfy]

end Order

end Statechart
