import Mathlib.Data.List.Basic
import Statechart.Text.Segments

namespace Statechart.Text

def lineFeeds (text : String) : Nat :=
  text.toList.count '\n'

theorem lineFeeds_eq_zero_iff (text : String) : lineFeeds text = 0 ↔ '\n' ∉ text.toList :=
  List.count_eq_zero

@[simp] theorem lineFeeds_append (s t : String) : lineFeeds (s ++ t) = lineFeeds s + lineFeeds t := by
  simp [lineFeeds]

-- A fixed text is given by its characters. What holds of these is decided at once, but not what
-- holds of the encoded text.
theorem toList_ofList_of (p : List Char → Prop) {cs : List Char} (h : p cs) : p (String.ofList cs).toList := by
  rwa [String.toList_ofList]

theorem lineFeeds_ofList {cs : List Char} (h : '\n' ∉ cs) : lineFeeds (String.ofList cs) = 0 :=
  (lineFeeds_eq_zero_iff _).mpr (toList_ofList_of (fun ds => '\n' ∉ ds) h)

theorem lineFeeds_join_eq_zero_iff (texts : List String) :
    lineFeeds (String.join texts) = 0 ↔ ∀ text ∈ texts, '\n' ∉ text.toList := by
  rw [lineFeeds_eq_zero_iff]
  simp

-- Whether a text is there or not, its line feeds are those of the texts there are.
theorem lineFeeds_getD_map (text : Option String) (f : String → String) (h : ∀ s, lineFeeds (f s) = lineFeeds s) :
    lineFeeds ((text.map f).getD "") = lineFeeds (String.join text.toList) := by
  cases text with
  | none => rfl
  | some s => simp [h]

-- Of two ways to write something as texts, one has the line feeds of the other if that is so of
-- every part.
theorem lineFeeds_join_flatMap {α : Type} {xs : List α} {f g : α → List String}
    (h : ∀ x ∈ xs, lineFeeds (String.join (f x)) = lineFeeds (String.join (g x))) :
    lineFeeds (String.join (xs.flatMap f)) = lineFeeds (String.join (xs.flatMap g)) := by
  induction xs with
  | nil => rfl
  | cons x rest ih =>
      have hrest := ih fun y hy => h y (List.mem_cons_of_mem _ hy)
      simp only [List.flatMap_cons, String.join_append, lineFeeds_append, h x List.mem_cons_self, hrest]

-- Each line has a line feed behind it and those that it brings along.
theorem lineFeeds_join_lines (lines : List String) :
    lineFeeds (String.join (lines.map (· ++ "\n"))) = lines.length + lineFeeds (String.join lines) := by
  induction lines with
  | nil => rfl
  | cons line rest ih =>
      have hfeed : lineFeeds "\n" = 1 := by decide
      simp only [List.map_cons, String.join_cons, lineFeeds_append, ih, hfeed, List.length_cons]
      omega

theorem piecesAt_of_notMem {mark : Char} {cs : List Char} (h : mark ∉ cs) : piecesAt mark cs = [cs] := by
  induction cs with
  | nil => rfl
  | cons c rest ih =>
      obtain ⟨hne, hrest⟩ := not_or.mp (List.mem_cons.not.mp h)
      rw [piecesAt, if_neg (Ne.symm hne), ih hrest]

theorem piecesAt_append_cons {mark : Char} {word : List Char} (h : mark ∉ word) (rest : List Char) :
    piecesAt mark (word ++ mark :: rest) = word :: piecesAt mark rest := by
  induction word with
  | nil => simp [piecesAt]
  | cons c word ih =>
      obtain ⟨hne, hword⟩ := not_or.mp (List.mem_cons.not.mp h)
      rw [List.cons_append, piecesAt, if_neg (Ne.symm hne), ih hword]

theorem piecesAt_append (mark : Char) (front back : List Char) :
    piecesAt mark (front ++ mark :: back) = piecesAt mark front ++ piecesAt mark back := by
  induction front with
  | nil => simp [piecesAt]
  | cons c front ih =>
      rw [List.cons_append, piecesAt, piecesAt, ih]
      split
      · rfl
      · cases hpieces : piecesAt mark front with
        | nil => exact absurd hpieces (piecesAt_ne_nil mark front)
        | cons piece pieces => rfl

-- What stands before the first line feed is the first line.
theorem segments_line {line : String} (h : '\n' ∉ line.toList) (rest : String) :
    segments '\n' (line ++ "\n" ++ rest) = line :: segments '\n' rest := by
  have htext : (line ++ "\n" ++ rest).toList = line.toList ++ '\n' :: rest.toList := by
    simp
  rw [segments, htext, piecesAt_append_cons h, List.map_cons, String.ofList_toList, segments]

-- Lines without line feeds of their own are found again between the line feeds of their text.
theorem segments_join_lines {lines : List String} (hlines : ∀ line ∈ lines, '\n' ∉ line.toList) {last : String}
    (hlast : '\n' ∉ last.toList) :
    segments '\n' (String.join (lines.map (· ++ "\n")) ++ last) = lines ++ [last] := by
  induction lines with
  | nil => simp [segments, piecesAt_of_notMem hlast]
  | cons line rest ih =>
      have hrest := ih fun other hm => hlines other (List.mem_cons_of_mem _ hm)
      rw [List.map_cons, String.join_cons, String.append_assoc, segments_line (hlines line List.mem_cons_self), hrest,
        List.cons_append]

end Statechart.Text
