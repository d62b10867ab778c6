import Statechart.Proofs.Text.Lemmas
import Statechart.States

namespace Statechart.Name

theorem not_isBlank_of_isAllowed {c : Char} (h : isAllowed c = true) : Text.isBlank c = false := by
  simp only [isAllowed, ranges, List.any_cons, List.any_nil, Bool.or_false, Bool.or_eq_true,
    Bool.and_eq_true, decide_eq_true_eq, Char.le_def, UInt32.le_iff_toNat_le] at h
  simp at h
  simp only [Text.isBlank, Text.Ranges.holds, Text.blanks, List.any_cons, List.any_nil, Bool.or_false,
    Bool.or_eq_false_iff, Bool.and_eq_false_iff, decide_eq_false_iff_not]
  omega

theorem ne_of_isAllowed {c d : Char} (hc : isAllowed c = true) (hd : isAllowed d = false) : c ≠ d := by
  rintro rfl
  simp [hc] at hd

-- A name that is nothing but markers, be it none of them.
def IsBare (name : String) : Prop :=
  ∃ count, name.toList = (List.replicate count marker.toList).flatten

theorem unmark_eq_nil_iff (cs : List Char) :
    unmark cs = [] ↔ ∃ count, cs = (List.replicate count marker.toList).flatten := by
  fun_induction unmark cs with
  | case1 rest ih =>
      rw [ih]
      constructor
      · rintro ⟨count, rfl⟩
        exact ⟨count + 1, rfl⟩
      · rintro ⟨count, h⟩
        cases count with
        | zero => simp at h
        | succ count =>
            exact ⟨count, by simpa [List.replicate_succ, marker] using h⟩
  | case2 c rest hc ih =>
      refine ⟨fun h => absurd h (by simp), ?_⟩
      rintro ⟨count, h⟩
      cases count with
      | zero => simp at h
      | succ count =>
          exfalso
          simp [List.replicate_succ, marker] at h
          exact hc _ h.1 h.2
  | case3 => exact ⟨fun _ => ⟨0, rfl⟩, fun _ => rfl⟩

theorem plain_eq_empty_iff (name : String) : plain name = "" ↔ IsBare name := by
  rw [plain, String.ofList_eq_empty_iff, unmark_eq_nil_iff]
  rfl

theorem isValid_eq_all_plain (name : String) : isValid name = (plain name).toList.all isAllowed := by
  rw [isValid, plain, String.toList_ofList]

-- A marker has a number sign at its start only, so none reaches over another's.
theorem unmark_append_sign (front back : List Char) :
    unmark (front ++ '#' :: back) = unmark front ++ unmark ('#' :: back) := by
  fun_induction unmark front with
  | case1 rest ih => simpa only [List.cons_append, unmark] using ih
  | case2 c rest hc ih =>
      have hstay : ∀ tail, c = '#' → rest ++ '#' :: back ≠ 'F' :: 'F' :: '5' :: '5' :: '5' :: '5' :: tail := by
        intro tail hsign hrest
        have hsignless : '#' ∉ "FF5555".toList := by decide
        obtain ⟨other, hother⟩ := Text.prefix_of_prefix_append_cons hsignless ⟨tail, hrest.symm⟩
        exact hc other hsign hother.symm
      rw [List.cons_append, unmark.eq_2 _ _ hstay, ih, List.cons_append]
  | case3 => rfl

theorem plain_append_marker (name : String) : plain (name ++ marker) = plain name := by
  have hmarker : marker.toList = '#' :: "FF5555".toList := by decide
  have hunmark : unmark ('#' :: "FF5555".toList) = [] := by decide
  rw [plain, String.toList_append, hmarker, unmark_append_sign, hunmark, List.append_nil, plain]

-- What is not a marker's number sign in a valid name is allowed: the other characters of a marker are.
theorem mem_of_all_unmark {cs : List Char} (h : (unmark cs).all isAllowed = true) {c : Char} (hc : c ∈ cs) :
    isAllowed c = true ∨ c = '#' := by
  fun_induction unmark cs with
  | case1 rest ih =>
      simp only [List.mem_cons] at hc
      rcases hc with rfl | rfl | rfl | rfl | rfl | rfl | rfl | hm
      · exact .inr rfl
      all_goals first
        | exact .inl (by decide)
        | exact ih h hm
  | case2 d rest hd ih =>
      simp only [List.all_cons, Bool.and_eq_true] at h
      rcases List.mem_cons.mp hc with rfl | hm
      · exact .inl h.1
      · exact ih h.2 hm
  | case3 => simp at hc

theorem mem_of_isValid {name : String} (h : isValid name = true) {c : Char} (hc : c ∈ name.toList) :
    isAllowed c = true ∨ c = '#' :=
  mem_of_all_unmark h hc

theorem notMem_of_isValid {name : String} (h : isValid name = true) {c : Char} (hc : isAllowed c = false)
    (hsign : c ≠ '#') : c ∉ name.toList := by
  intro hm
  rcases mem_of_isValid h hm with hallowed | heq
  · exact ne_of_isAllowed hallowed hc rfl
  · exact hsign heq

theorem blank_notMem {name : String} (h : isValid name = true) : ' ' ∉ name.toList :=
  notMem_of_isValid h (by decide) (by decide)

-- No character but an allowed one survives the markers of a valid name.
theorem isAllowed_of_mem_plain {name : String} (h : isValid name = true) {c : Char}
    (hc : c ∈ (plain name).toList) : isAllowed c = true := by
  rw [plain, String.toList_ofList] at hc
  exact List.all_eq_true.mp h c hc

theorem isReserved_eq_false_iff (name : String) :
    isReserved name = false ↔ name ≠ initial ∧ name ≠ final := by
  simp [isReserved]

end Statechart.Name

namespace Statechart

theorem declaredName_of_isValid {name : String} (h : Name.isValid name = true) :
    declaredName name = Name.plain name := by
  have hseen : ∀ c ∈ (Name.plain name).toList, Text.isBlank c = false := fun c hc =>
    Name.not_isBlank_of_isAllowed (Name.isAllowed_of_mem_plain h hc)
  rw [declaredName, Text.trim, Text.trimChars_eq_self hseen, String.ofList_toList]

end Statechart
