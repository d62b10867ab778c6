import Mathlib.Data.String.Basic

namespace Statechart.Text

-- The bytes that a text is stored as.
def bytes (text : String) : List UInt8 :=
  text.toUTF8.data.toList

theorem bytes_eq (text : String) : bytes text = text.toList.flatMap String.utf8EncodeChar := by
  rw [bytes, String.toUTF8_eq_toByteArray, ← String.utf8Encode_toList, List.utf8Encode, List.data_toByteArray]

theorem ofNat_cons_lt_iff {m n : Nat} (hm : m < 256) (hn : n < 256) (rest tail : List UInt8) :
    UInt8.ofNat m :: rest < UInt8.ofNat n :: tail ↔ m < n ∨ m = n ∧ rest < tail := by
  rw [List.cons_lt_cons_iff, UInt8.lt_iff_toNat_lt, ← UInt8.toNat_inj, UInt8.toNat_ofNat', UInt8.toNat_ofNat',
    Nat.mod_eq_of_lt hm, Nat.mod_eq_of_lt hn]

-- A smaller character has smaller bytes, whatever follows it: if it has fewer of them its first is smaller,
-- and if it has as many, the first that differs is.
theorem utf8EncodeChar_append_lt {c d : Char} (h : c < d) (rest tail : List UInt8) :
    String.utf8EncodeChar c ++ rest < String.utf8EncodeChar d ++ tail := by
  have hlt : c.val.toNat < d.val.toNat := h
  have hd : d.val.toNat < 0x110000 := by
    have hvalid := d.valid
    simp only [UInt32.isValidChar, Nat.isValidChar] at hvalid
    omega
  unfold String.utf8EncodeChar
  generalize c.val.toNat = m at hlt
  generalize d.val.toNat = n at hlt hd
  have hdigits (v : Nat) : v / 64 / 64 = v / 4096 ∧ v / 4096 / 64 = v / 262144 := by
    rw [Nat.div_div_eq_div_mul, Nat.div_div_eq_div_mul]
    exact ⟨rfl, rfl⟩
  have hlead (v : Nat) (hv : v < 0x110000) : v / 262144 / 8 = 0 := by omega
  have hm := hdigits m
  have hn := hdigits n
  have hmlead := hlead m (hlt.trans hd)
  have hnlead := hlead n hd
  dsimp only
  split_ifs
  all_goals simp (disch := omega) only [List.cons_append, List.nil_append, ofNat_cons_lt_iff]
  all_goals omega

theorem flatMap_utf8EncodeChar_lt {cs ds : List Char} (h : cs < ds) :
    cs.flatMap String.utf8EncodeChar < ds.flatMap String.utf8EncodeChar := by
  induction cs generalizing ds with
  | nil =>
      cases ds with
      | nil => simp at h
      | cons d ds =>
          rw [List.flatMap_nil, List.flatMap_cons]
          cases hbytes : String.utf8EncodeChar d ++ ds.flatMap String.utf8EncodeChar with
          | nil => simp [String.utf8EncodeChar_ne_nil] at hbytes
          | cons byte bytes => exact List.nil_lt_cons byte bytes
  | cons c cs ih =>
      cases ds with
      | nil => simp at h
      | cons d ds =>
          rw [List.flatMap_cons, List.flatMap_cons]
          rcases List.cons_lt_cons_iff.mp h with hc | ⟨rfl, hcs⟩
          · exact utf8EncodeChar_append_lt hc _ _
          · exact List.append_left_lt (ih hcs)

-- Texts stand in the order of their bytes.
theorem bytes_lt_iff (s t : String) : bytes s < bytes t ↔ s < t := by
  have hforward {s t : String} (h : s < t) : bytes s < bytes t := by
    rw [bytes_eq, bytes_eq]
    exact flatMap_utf8EncodeChar_lt (String.lt_iff_toList_lt.mp h)
  refine ⟨fun h => ?_, hforward⟩
  rcases lt_trichotomy s t with hlt | rfl | hgt
  · exact hlt
  · exact absurd h (List.lt_irrefl _)
  · exact absurd (hforward hgt) (List.lt_asymm h)

end Statechart.Text
