import Mathlib.Data.List.Infix
import Mathlib.Data.List.TakeWhile
import Statechart.Text.Blank
import Statechart.Text.Search

namespace Statechart.Text

theorem isDigit_iff (c : Char) : c.isDigit = true ↔ '0' ≤ c ∧ c ≤ '9' :=
  Bool.and_eq_true_iff.trans (and_congr decide_eq_true_iff decide_eq_true_iff)

theorem occurs_iff (needle text : List Char) : occurs needle text = true ↔ needle <:+: text := by
  induction text with
  | nil => simp [occurs]
  | cons c rest ih => simp only [occurs, Bool.or_eq_true, List.isPrefixOf_iff_prefix, ih, List.infix_cons_iff]

theorem mentions_iff (text needle : String) :
    mentions text needle = true ↔ needle.toList <:+: text.toList :=
  occurs_iff _ _

theorem mem_of_mentions {text needle : String} {c : Char} (h : mentions text needle = true)
    (hc : c ∈ needle.toList) : c ∈ text.toList :=
  ((mentions_iff text needle).mp h).subset hc

-- What a text with a mark in it begins with stands before the mark if the mark is not in it.
theorem prefix_of_prefix_append_cons {mark : Char} {word front back : List Char} (hword : mark ∉ word)
    (h : word <+: front ++ mark :: back) : word <+: front := by
  have hfront : front ++ [mark] <+: front ++ mark :: back := ⟨back, by simp⟩
  rcases List.prefix_or_prefix_of_prefix h hfront with hshort | hlong
  · rcases List.prefix_concat_iff.mp hshort with rfl | hprefix
    · simp at hword
    · exact hprefix
  · exact absurd (hlong.subset (by simp)) hword

-- A text is not found across the seam to another that has none of its characters.
theorem infix_append_iff_of_disjoint {needle text tail : List Char} (hne : needle ≠ [])
    (h : ∀ c ∈ needle, c ∉ tail) : needle <:+: text ++ tail ↔ needle <:+: text := by
  induction tail using List.reverseRecOn with
  | nil => rw [List.append_nil]
  | append_singleton tail c ih =>
      have hc : c ∉ needle := fun hm => h c hm (by simp)
      have htail := ih fun d hd hm => h d hd (List.mem_append_left _ hm)
      rw [← List.append_assoc, List.infix_concat_iff, htail]
      refine or_iff_right fun hsuffix => ?_
      rcases List.suffix_concat_iff.mp hsuffix with hnil | ⟨front, rfl, -⟩
      · exact hne hnil
      · simp at hc

-- A text without blanks has nothing to trim.
theorem trimChars_eq_self {cs : List Char} (h : ∀ c ∈ cs, isBlank c = false) : trimChars cs = cs := by
  have hkeep (ds : List Char) (hds : ∀ c ∈ ds, isBlank c = false) : ds.dropWhile isBlank = ds := by
    cases ds with
    | nil => rfl
    | cons d ds => simp [hds d]
  rw [trimChars, hkeep cs h, hkeep cs.reverse (by simpa using h), List.reverse_reverse]

-- What trimming takes off is what it was told to.
theorem exists_blank_trimChars (cs : List Char) :
    ∃ front back, cs = front ++ trimChars cs ++ back ∧ (∀ c ∈ front, isBlank c = true) ∧
      ∀ c ∈ back, isBlank c = true := by
  have hsplit (ds : List Char) : ds = ds.takeWhile isBlank ++ ds.dropWhile isBlank :=
    List.takeWhile_append_dropWhile.symm
  have hblank (ds : List Char) : ∀ c ∈ ds.takeWhile isBlank, isBlank c = true := fun c hc => List.mem_takeWhile_imp hc
  refine ⟨cs.takeWhile isBlank, ((cs.dropWhile isBlank).reverse.takeWhile isBlank).reverse, ?_, hblank cs, ?_⟩
  · have hback := congrArg List.reverse (hsplit (cs.dropWhile isBlank).reverse)
    rw [List.reverse_reverse, List.reverse_append] at hback
    rw [trimChars, List.append_assoc, ← hback]
    exact hsplit cs
  · exact fun c hc => hblank _ c (List.mem_reverse.mp hc)

theorem trimChars_blank_append {front : List Char} (h : ∀ c ∈ front, isBlank c = true) (cs : List Char) :
    trimChars (front ++ cs) = trimChars cs := by
  rw [trimChars, List.dropWhile_append_of_pos h, trimChars]

theorem trimChars_append_blank {back : List Char} (h : ∀ c ∈ back, isBlank c = true) (cs : List Char) :
    trimChars (cs ++ back) = trimChars cs := by
  have hback : back.dropWhile isBlank = [] := List.dropWhile_eq_nil_iff.mpr h
  rw [trimChars, trimChars, List.dropWhile_append]
  split
  · rename_i hempty
    rw [List.isEmpty_iff.mp hempty, hback]
  · rw [List.reverse_append, List.dropWhile_append_of_pos (by simpa using h)]

-- Two texts whose first words end at the same mark: one is a prefix of the other only if the
-- words agree.
theorem prefix_of_append_cons {mark : Char} {word other rest tail : List Char}
    (hword : mark ∉ word) (hother : mark ∉ other)
    (h : word ++ mark :: rest <+: other ++ mark :: tail) : word = other ∧ rest <+: tail := by
  induction word generalizing other with
  | nil =>
      cases other with
      | nil => simpa using h
      | cons c other =>
          have hc := (List.cons_prefix_cons.mp h).1
          simp [hc] at hother
  | cons c word ih =>
      cases other with
      | nil =>
          have hc := (List.cons_prefix_cons.mp h).1
          simp [hc] at hword
      | cons d other =>
          obtain ⟨hcd, ht⟩ := List.cons_prefix_cons.mp h
          obtain ⟨hw, hr⟩ := ih (fun hm => hword (List.mem_cons_of_mem _ hm))
            (fun hm => hother (List.mem_cons_of_mem _ hm)) ht
          exact ⟨by rw [hcd, hw], hr⟩

-- Texts that agree are cut alike before the first character that lacks a property.
theorem append_cons_inj {p : Char → Prop} {word other rest tail : List Char} {mark stop : Char}
    (hword : ∀ c ∈ word, p c) (hother : ∀ c ∈ other, p c) (hmark : ¬p mark) (hstop : ¬p stop)
    (h : word ++ mark :: rest = other ++ stop :: tail) : word = other ∧ mark = stop ∧ rest = tail := by
  classical
  have hcut {front back : List Char} {c : Char} (hfront : ∀ d ∈ front, p d) (hc : ¬p c) :
      (front ++ c :: back).takeWhile (p ·) = front := by
    rw [List.takeWhile_append_of_pos (by simpa using hfront), List.takeWhile_cons_of_neg (by simpa using hc),
      List.append_nil]
  obtain rfl : word = other := by rw [← hcut hword hmark, h, hcut hother hstop]
  exact ⟨rfl, List.cons.inj (List.append_cancel_left h)⟩

end Statechart.Text
