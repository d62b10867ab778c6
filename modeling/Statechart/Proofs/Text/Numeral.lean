import Mathlib.Data.Nat.Digits.Defs
import Statechart.Proofs.Text.Lemmas
import Statechart.Text.Numeral

namespace Statechart.Text

theorem not_isBlank_of_isDigit {c : Char} (h : c.isDigit = true) : isBlank c = false := by
  obtain ⟨hlow, hhigh⟩ := (isDigit_iff c).mp h
  have hlow : 48 ≤ c.toNat := hlow
  have hhigh : c.toNat ≤ 57 := hhigh
  rw [← Bool.not_eq_true]
  simp only [isBlank, blanks, Ranges.holds, List.any_cons, List.any_nil, Bool.or_false, Bool.or_eq_true,
    Bool.and_eq_true, decide_eq_true_eq]
  omega

-- The value of a row of digits by their places: the last counts ones, the one before it tens.
theorem digitsValue_eq_ofDigits (digits : List Char) :
    digitsValue digits = Nat.ofDigits 10 (digits.reverse.map fun c => c.toNat - '0'.toNat) := by
  induction digits using List.reverseRecOn with
  | nil => rfl
  | append_singleton digits c ih =>
      rw [digitsValue, Nat.ofDigitChars_append, Nat.ofDigitChars_cons, Nat.ofDigitChars_nil, ← digitsValue, ih,
        List.reverse_append, List.reverse_singleton, List.singleton_append, List.map_cons, Nat.ofDigits_cons]
      exact Nat.add_comm _ _

-- What an index may be written as: digits with one plus sign before them or none, and blanks around that.
def Numeral (text : String) (n : Nat) : Prop :=
  ∃ front sign digits back : List Char,
    text.toList = front ++ (sign ++ digits) ++ back ∧ (∀ c ∈ front, isBlank c = true) ∧
      (∀ c ∈ back, isBlank c = true) ∧ (sign = [] ∨ sign = ['+']) ∧ digits ≠ [] ∧
      (∀ c ∈ digits, '0' ≤ c ∧ c ≤ '9') ∧
      n = Nat.ofDigits 10 (digits.reverse.map fun c => c.toNat - '0'.toNat)

-- A text without the plus sign in front.
def unsigned : List Char → List Char
  | '+' :: rest => rest
  | cs => cs

def readDigits (digits : List Char) : Option UInt64 :=
  if digits.isEmpty || !digits.all Char.isDigit then none
  else if h : digitsValue digits < UInt64.size then some (UInt64.ofNatLT (digitsValue digits) h)
  else none

theorem readIndex_eq (text : String) : readIndex text = readDigits (unsigned (trimChars text.toList)) := by
  unfold readIndex
  split
  · rename_i hsigned
    rw [hsigned]
    rfl
  · rename_i hplain
    rw [unsigned.eq_2 _ hplain]
    rfl

theorem exists_sign_unsigned (cs : List Char) :
    ∃ sign : List Char, cs = sign ++ unsigned cs ∧ (sign = [] ∨ sign = ['+']) := by
  unfold unsigned
  split
  · exact ⟨['+'], rfl, .inr rfl⟩
  · exact ⟨[], rfl, .inl rfl⟩

-- A plus sign is no digit.
theorem unsigned_of_digits {digits : List Char} (h : ∀ c ∈ digits, c.isDigit = true) : unsigned digits = digits := by
  unfold unsigned
  split
  · exact absurd (h '+' (by simp)) (by decide)
  · rfl

theorem map_readDigits_eq_some_iff (digits : List Char) (n : Nat) :
    (readDigits digits).map UInt64.toNat = some n ↔
      digits ≠ [] ∧ (∀ c ∈ digits, c.isDigit = true) ∧ digitsValue digits = n ∧ n < UInt64.size := by
  unfold readDigits
  split
  · rename_i hbad
    simp only [Bool.or_eq_true, List.isEmpty_iff, Bool.not_eq_true', ← Bool.not_eq_true, List.all_eq_true] at hbad
    simp only [Option.map_none, reduceCtorEq, false_iff]
    rintro ⟨hne, hdigits, -, -⟩
    exact hbad.elim hne fun hnot => hnot hdigits
  · rename_i hgood
    simp only [Bool.or_eq_true, not_or, List.isEmpty_iff, Bool.not_eq_true', Bool.not_eq_false,
      List.all_eq_true] at hgood
    split
    · rename_i hlt
      rw [Option.map_some, UInt64.toNat_ofNatLT, Option.some.injEq]
      exact ⟨fun hn => ⟨hgood.1, hgood.2, hn, hn ▸ hlt⟩, fun h => h.2.2.1⟩
    · rename_i hlarge
      simp only [Option.map_none, reduceCtorEq, false_iff]
      rintro ⟨-, -, rfl, hlt⟩
      exact hlarge hlt

theorem map_readIndex_eq_some_iff (text : String) (n : Nat) :
    (readIndex text).map UInt64.toNat = some n ↔ Numeral text n ∧ n < UInt64.size := by
  rw [readIndex_eq, map_readDigits_eq_some_iff]
  constructor
  · rintro ⟨hne, hdigits, hn, hlt⟩
    obtain ⟨sign, htrim, hsign⟩ := exists_sign_unsigned (trimChars text.toList)
    obtain ⟨front, back, htext, hfront, hback⟩ := exists_blank_trimChars text.toList
    refine ⟨⟨front, sign, _, back, htrim ▸ htext, hfront, hback, hsign, hne, ?_, ?_⟩, hlt⟩
    · exact fun c hc => (isDigit_iff c).mp (hdigits c hc)
    · rw [← digitsValue_eq_ofDigits, hn]
  · rintro ⟨⟨front, sign, digits, back, htext, hfront, hback, hsign, hne, hdigits, hn⟩, hlt⟩
    simp only [← isDigit_iff] at hdigits
    have hclean : ∀ c ∈ sign ++ digits, isBlank c = false := by
      intro c hc
      rcases List.mem_append.mp hc with hsigned | hdigit
      · rcases hsign with rfl | rfl
        · simp at hsigned
        · rw [List.mem_singleton.mp hsigned]
          decide
      · exact not_isBlank_of_isDigit (hdigits c hdigit)
    have hunsigned : unsigned (trimChars text.toList) = digits := by
      rw [htext, trimChars_append_blank hback, trimChars_blank_append hfront, trimChars_eq_self hclean]
      rcases hsign with rfl | rfl
      · exact unsigned_of_digits hdigits
      · rfl
    rw [hunsigned]
    exact ⟨hne, hdigits, by rw [digitsValue_eq_ofDigits, hn], hlt⟩

theorem readIndex_eq_some_iff (text : String) (index : UInt64) :
    readIndex text = some index ↔ Numeral text index.toNat := by
  have hmap : (readIndex text).map UInt64.toNat = some index.toNat ↔ readIndex text = some index := by
    rw [Option.map_eq_some_iff]
    constructor
    · rintro ⟨other, hother, heq⟩
      rw [hother, UInt64.toNat_inj.mp heq]
    · exact fun h => ⟨index, h, rfl⟩
  rw [← hmap, map_readIndex_eq_some_iff, and_iff_left index.toNat_lt_size]

theorem readIndex_eq_none_iff (text : String) : readIndex text = none ↔ ∀ n, Numeral text n → UInt64.size ≤ n := by
  rw [← Option.map_eq_none_iff (f := UInt64.toNat), Option.eq_none_iff_forall_ne_some]
  simp only [ne_eq, map_readIndex_eq_some_iff, not_and, Nat.not_lt]

-- A number that fits is read back from its digits.
theorem readIndex_decimal (n : UInt64) : readIndex (String.ofList (decimal n.toNat)) = some n := by
  have hdigits (c : Char) (hc : c ∈ decimal n.toNat) : c.isDigit = true :=
    Nat.isDigit_of_mem_toDigits (by decide) (by decide) hc
  refine (readIndex_eq_some_iff _ n).mpr
    ⟨[], [], decimal n.toNat, [], by simp, by simp, by simp, .inl rfl, Nat.toDigits_ne_nil, ?_, ?_⟩
  · exact fun c hc => (isDigit_iff c).mp (hdigits c hc)
  · rw [← digitsValue_eq_ofDigits]
    exact Nat.ofDigitChars_ten_toDigits.symm

-- A text with any other character in it is no numeral.
theorem readIndex_eq_none_of_mem {text : String} {c : Char} (hc : c ∈ text.toList) (hblank : isBlank c = false)
    (hplus : c ≠ '+') (hdigit : c.isDigit = false) : readIndex text = none := by
  refine (readIndex_eq_none_iff text).mpr ?_
  rintro n ⟨front, sign, digits, back, htext, hfront, hback, hsign, -, hdigits, -⟩
  rw [htext, List.mem_append, List.mem_append, List.mem_append] at hc
  rcases hc with (hc | hc | hc) | hc
  · simp [hfront c hc] at hblank
  · rcases hsign with rfl | rfl
    · simp at hc
    · exact absurd (List.mem_singleton.mp hc) hplus
  · simp [(isDigit_iff c).mpr (hdigits c hc)] at hdigit
  · simp [hback c hc] at hblank

example : readIndex "\u3000+007 " = some 7 ∧ readIndex "018446744073709551616" = none ∧ readIndex "+" = none := by
  decide

end Statechart.Text
