import Statechart.Proofs.Name.Markers

namespace Statechart.Name

-- The characters that stand for themselves in a name, class by class.
inductive Permitted : Char → Prop
  | ascii {c : Char} (h : c.isAlphanum = true) : Permitted c
  | fullWidthDigit {c : Char} (h : '０' ≤ c ∧ c ≤ '９') : Permitted c
  | fullWidthUpper {c : Char} (h : 'Ａ' ≤ c ∧ c ≤ 'Ｚ') : Permitted c
  | fullWidthLower {c : Char} (h : 'ａ' ≤ c ∧ c ≤ 'ｚ') : Permitted c
  | hiragana {c : Char} (h : 'ぁ' ≤ c ∧ c ≤ 'ん') : Permitted c
  | katakana {c : Char} (h : 'ァ' ≤ c ∧ c ≤ 'ヶ') : Permitted c
  | kanji {c : Char} (h : '一' ≤ c ∧ c ≤ '龥') : Permitted c
  | repetition : Permitted '々'
  | length : Permitted 'ー'
  | zero : Permitted '〇'

theorem isAlphanum_iff (c : Char) :
    c.isAlphanum = true ↔ ('0' ≤ c ∧ c ≤ '9') ∨ ('A' ≤ c ∧ c ≤ 'Z') ∨ ('a' ≤ c ∧ c ≤ 'z') := by
  have hupper : c.isUpper = true ↔ 'A' ≤ c ∧ c ≤ 'Z' := decide_eq_true_iff
  have hlower : c.isLower = true ↔ 'a' ≤ c ∧ c ≤ 'z' :=
    Bool.and_eq_true_iff.trans (and_congr decide_eq_true_iff decide_eq_true_iff)
  have hclasses : c.isAlphanum = (c.isUpper || c.isLower || c.isDigit) := rfl
  rw [hclasses, Bool.or_eq_true, Bool.or_eq_true, Text.isDigit_iff, hupper, hlower, or_comm]

theorem isAllowed_iff_permitted (c : Char) : isAllowed c = true ↔ Permitted c := by
  simp only [isAllowed, ranges, List.any_cons, List.any_nil, Bool.or_false, Bool.or_eq_true, Bool.and_eq_true,
    decide_eq_true_eq]
  constructor
  · rintro (h | h | h | h | h | h | h | h | h | h | h | h)
    · exact .ascii ((isAlphanum_iff c).mpr (.inl h))
    · exact .ascii ((isAlphanum_iff c).mpr (.inr (.inl h)))
    · exact .ascii ((isAlphanum_iff c).mpr (.inr (.inr h)))
    · exact .fullWidthUpper h
    · exact .fullWidthLower h
    · exact .fullWidthDigit h
    · exact .hiragana h
    · exact .katakana h
    · exact .kanji h
    · exact Char.le_antisymm h.1 h.2 ▸ .repetition
    · exact Char.le_antisymm h.1 h.2 ▸ .length
    · exact Char.le_antisymm h.1 h.2 ▸ .zero
  · rintro (h | h | h | h | h | h | h)
    · rcases (isAlphanum_iff c).mp h with h | h | h <;> simp [h]
    all_goals simp [*]

-- What names are put together from.
inductive Piece where
  | marker
  | letter (c : Char) (h : Permitted c)

def Piece.text : Piece → List Char
  | .marker => Name.marker.toList
  | .letter c _ => [c]

def Piece.isMarker : Piece → Bool
  | .marker => true
  | .letter _ _ => false

-- The name that pieces spell, one after the other.
def spell (pieces : List Piece) : String :=
  String.ofList (pieces.flatMap Piece.text)

theorem spell_append (front back : List Piece) : spell (front ++ back) = spell front ++ spell back := by
  rw [spell, List.flatMap_append, String.ofList_append, spell, spell]

theorem unmark_cons_of_ne {c : Char} (hc : c ≠ '#') (rest : List Char) : unmark (c :: rest) = c :: unmark rest :=
  unmark.eq_2 c rest fun _ hsign _ => hc hsign

-- A letter is no number sign, so the search for markers passes over it, and comes upon the markers that
-- were spelled and upon no other.
theorem unmark_flatMap_text (pieces : List Piece) :
    unmark (pieces.flatMap Piece.text) = (pieces.filter (!·.isMarker)).flatMap Piece.text := by
  induction pieces with
  | nil => rfl
  | cons piece rest ih =>
      cases piece with
      | marker => exact ih
      | letter c h =>
          have hc : c ≠ '#' := ne_of_isAllowed ((isAllowed_iff_permitted c).mpr h) (by decide)
          rw [List.flatMap_cons, Piece.text, List.singleton_append, unmark_cons_of_ne hc, ih]
          rfl

theorem plain_spell (pieces : List Piece) : plain (spell pieces) = spell (pieces.filter (!·.isMarker)) := by
  rw [plain, spell, String.toList_ofList, unmark_flatMap_text, spell]

theorem isValid_spell (pieces : List Piece) : isValid (spell pieces) = true := by
  rw [isValid, spell, String.toList_ofList, unmark_flatMap_text, List.all_eq_true]
  intro c hc
  obtain ⟨piece, hpiece, htext⟩ := List.mem_flatMap.mp hc
  cases piece with
  | marker => simp [Piece.isMarker] at hpiece
  | letter d h =>
      obtain rfl := List.mem_singleton.mp htext
      exact (isAllowed_iff_permitted c).mpr h

-- What the search leaves of a valid name are letters, and what it takes out are markers. A number sign
-- that is in no marker is left, and is no letter.
theorem exists_pieces_of_all_unmark {cs : List Char} (h : (unmark cs).all isAllowed = true) :
    ∃ pieces : List Piece, cs = pieces.flatMap Piece.text := by
  fun_induction unmark cs with
  | case1 rest ih =>
      obtain ⟨pieces, rfl⟩ := ih h
      exact ⟨.marker :: pieces, rfl⟩
  | case2 c rest hc ih =>
      simp only [List.all_cons, Bool.and_eq_true] at h
      obtain ⟨pieces, rfl⟩ := ih h.2
      exact ⟨.letter c ((isAllowed_iff_permitted c).mp h.1) :: pieces, rfl⟩
  | case3 => exact ⟨[], rfl⟩

theorem isValid_iff_exists_pieces (name : String) : isValid name = true ↔ ∃ pieces, name = spell pieces := by
  constructor
  · intro h
    obtain ⟨pieces, hpieces⟩ := exists_pieces_of_all_unmark h
    exact ⟨pieces, by rw [spell, ← hpieces, String.ofList_toList]⟩
  · rintro ⟨pieces, rfl⟩
    exact isValid_spell pieces

theorem isValid_append {name other : String} (hname : isValid name = true) (hother : isValid other = true) :
    isValid (name ++ other) = true := by
  obtain ⟨front, rfl⟩ := (isValid_iff_exists_pieces name).mp hname
  obtain ⟨back, rfl⟩ := (isValid_iff_exists_pieces other).mp hother
  rw [← spell_append]
  exact isValid_spell _

theorem isMarked_plain {name : String} (h : isValid name = true) : isMarked (plain name) = false := by
  rw [← Bool.not_eq_true]
  intro hmarked
  have hsign : '#' ∈ (plain name).toList := Text.mem_of_mentions hmarked (by decide)
  exact ne_of_isAllowed (isAllowed_of_mem_plain h hsign) (by decide) rfl

-- A name is valid when it is put together from whole markers and letters, in any order. Without the
-- markers the letters are left, and that is a valid name which has no marker and loses nothing more.
theorem isValid_iff_spelled (name : String) :
    (isValid name = true ↔ ∃ pieces, name = spell pieces) ∧
      (∀ pieces, name = spell pieces →
        plain name = spell (pieces.filter (!·.isMarker)) ∧ isMarked (plain name) = false ∧
          isValid (plain name) = true ∧ plain (plain name) = plain name) ∧
      ∀ other, isValid name = true → isValid other = true → isValid (name ++ other) = true := by
  refine ⟨isValid_iff_exists_pieces name, ?_, ?_⟩
  · rintro pieces rfl
    have hplain := plain_spell pieces
    refine ⟨hplain, isMarked_plain (isValid_spell pieces), ?_, ?_⟩
    · rw [hplain]
      exact isValid_spell _
    · rw [hplain, plain_spell, List.filter_filter]
      simp only [Bool.and_self]
  · exact fun other hname hother => isValid_append hname hother

-- In a name that is not valid a marker can come about where another is taken out.
example : plain "#FF#FF55555555" = marker ∧ isValid "#FF#FF55555555" = false := by decide

end Statechart.Name
