import Mathlib.Data.List.Basic
import Statechart.Proofs.Health.Sound
import Statechart.Proofs.Name.Markers

namespace Statechart

section FirstSeen

variable {α : Type} [DecidableEq α]

-- Leaving elements out keeps the order in which the others are first seen.
theorem idxOf_lt_of_filter (p : α → Bool) (xs : List α) {a b : α} (ha : p a = true) (hb : p b = true)
    (h : (xs.filter p).idxOf a < (xs.filter p).idxOf b) : xs.idxOf a < xs.idxOf b := by
  induction xs with
  | nil => simp at h
  | cons x xs ih =>
      by_cases hx : p x = true
      · rw [List.filter_cons_of_pos hx] at h
        by_cases hxb : x = b
        · simp [hxb] at h
        · rw [List.idxOf_cons_ne _ hxb] at h ⊢
          by_cases hxa : x = a
          · simp [hxa]
          · rw [List.idxOf_cons_ne _ hxa] at h ⊢
            exact Nat.succ_lt_succ (ih (Nat.lt_of_succ_lt_succ h))
      · rw [List.filter_cons_of_neg hx] at h
        have hxa : x ≠ a := by rintro rfl; exact hx ha
        have hxb : x ≠ b := by rintro rfl; exact hx hb
        rw [List.idxOf_cons_ne _ hxa, List.idxOf_cons_ne _ hxb]
        exact Nat.succ_lt_succ (ih h)

-- What is left of a list without its repetitions stands where it is first seen.
theorem eraseDups_firstSeen (xs : List α) : xs.eraseDups.Pairwise fun a b => xs.idxOf a < xs.idxOf b := by
  induction hn : xs.length using Nat.strong_induction_on generalizing xs with
  | h n ih =>
    cases xs with
    | nil => simp
    | cons x xs =>
        rw [List.eraseDups_cons]
        have hlength : (xs.filter fun b => !b == x).length < n := by
          have := List.length_filter_le (fun b => !b == x) xs
          simp only [List.length_cons] at hn
          omega
        have hne {b : α} (hb : b ∈ (xs.filter fun b => !b == x).eraseDups) : (!b == x) = true :=
          (List.mem_filter.mp (List.mem_eraseDups.mp hb)).2
        rw [List.pairwise_cons]
        constructor
        · intro b hb
          have hxb : x ≠ b := by rintro rfl; simpa using hne hb
          simp [List.idxOf_cons_ne _ hxb]
        · refine (ih _ hlength _ rfl).imp_of_mem fun {a b} ha hb hab => ?_
          apply idxOf_lt_of_filter (fun b => !b == x) (x :: xs) (hne ha) (hne hb)
          simpa using hab

theorem nodup_of_firstSeen {order xs : List α} (h : xs.Pairwise fun a b => order.idxOf a < order.idxOf b) :
    xs.Nodup :=
  h.imp fun hab he => by simp [he] at hab

end FirstSeen

-- The names that a model writes, in the order in which its states are collected.
def writtenNames (items : List Item) : List String :=
  items.map Item.name ++ targets items

theorem mem_states_iff (items : List Item) (name : String) :
    name ∈ states items ↔ name ≠ "" ∧ ∃ raw ∈ writtenNames items, declaredName raw = name := by
  simp only [states, List.mem_eraseDups, List.mem_filter, List.mem_map, bne_iff_ne, ne_eq, writtenNames]
  exact and_comm

namespace Sound

variable {items : List Item}

theorem isValid_of_written (h : Sound items) {name : String} (hn : name ∈ writtenNames items) :
    Name.isValid name = true := by
  rcases List.mem_append.mp hn with hname | htarget
  · obtain ⟨item, hm, rfl⟩ := List.mem_map.mp hname
    exact h.validName item hm
  · obtain ⟨item, hm, ht⟩ := List.mem_flatMap.mp htarget
    exact h.validTarget item hm name ht

-- In a sound model there is nothing to trim off a name.
theorem states_eq (h : Sound items) :
    states items = (((writtenNames items).map Name.plain).filter (· != "")).eraseDups := by
  have hplain : (writtenNames items).map declaredName = (writtenNames items).map Name.plain :=
    List.map_congr_left fun _ hn => declaredName_of_isValid (h.isValid_of_written hn)
  rw [← hplain]
  rfl

theorem states_firstSeen (h : Sound items) :
    (states items).Pairwise fun a b =>
      ((writtenNames items).map Name.plain).idxOf a < ((writtenNames items).map Name.plain).idxOf b := by
  rw [h.states_eq]
  refine (eraseDups_firstSeen _).imp_of_mem fun {a b} ha hb hab => ?_
  have hne {c : String} (hc : c ∈ (((writtenNames items).map Name.plain).filter (· != "")).eraseDups) :
      (c != "") = true := (List.mem_filter.mp (List.mem_eraseDups.mp hc)).2
  exact idxOf_lt_of_filter (· != "") _ (hne ha) (hne hb) hab

-- A collected name has only characters of a name: no marker, no blank and no line feed.
theorem isAllowed_of_mem_states (h : Sound items) {name : String} (hn : name ∈ states items) {c : Char}
    (hc : c ∈ name.toList) : Name.isAllowed c = true := by
  obtain ⟨-, raw, hraw, rfl⟩ := (mem_states_iff items name).mp hn
  have hvalid := h.isValid_of_written hraw
  rw [declaredName_of_isValid hvalid] at hc
  exact Name.isAllowed_of_mem_plain hvalid hc

end Sound

end Statechart
