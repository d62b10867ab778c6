import Statechart.Proofs.Json.Overlay
import Statechart.Style

namespace Statechart.Style

-- A text that a diagram can have in quotes, or as a color, on one line.
def FitsLine (value : String) : Prop :=
  ∀ c ∈ value.toList, c ≠ '"' ∧ Text.isControl c = false

theorem breaksLine_eq_false_iff (value : String) : breaksLine value = false ↔ FitsLine value := by
  simp [breaksLine, FitsLine]

theorem check_eq_ok_iff (s : Style) (path : String) :
    s.check path = .ok () ↔ ∀ value, s.get? path = some value → FitsLine value := by
  unfold check
  cases s.get? path with
  | none => simp
  | some value => cases hbreaks : breaksLine value <;> simp [hbreaks, ← breaksLine_eq_false_iff]

-- A style is accepted when neither of the texts it is read for breaks its line.
theorem validate_eq_ok_iff (s : Style) :
    s.validate = .ok () ↔ s.check fontPath = .ok () ∧ s.check colorPath = .ok () := by
  unfold validate
  cases s.check fontPath <;> simp

-- It is read for the texts at the ends of two paths.
theorem validate_eq_ok_iff_follow (document : Json) :
    (⟨document⟩ : Style).validate = .ok () ↔
      ∀ path ∈ [["font", "family"], ["highlight", "color"]], ∀ value,
        document.follow path = some (.string value) → FitsLine value := by
  have hget (path value : String) : (⟨document⟩ : Style).get? path = some value ↔
      document.follow (Text.segments '.' path) = some (.string value) := by
    rw [get?, Json.followString]
    cases document.follow (Text.segments '.' path) with
    | none => simp
    | some found => cases found <;> simp
  have hfont : Text.segments '.' fontPath = ["font", "family"] := by decide
  have hcolor : Text.segments '.' colorPath = ["highlight", "color"] := by decide
  simp only [validate_eq_ok_iff, check_eq_ok_iff, hget, hfont, hcolor, List.forall_mem_cons, List.not_mem_nil,
    false_implies, implies_true, and_true]

theorem ofJson_eq_ok_iff (document : Json) (style : Style) :
    ofJson document = .ok style ↔ document.isObject = true ∧ style = ⟨document⟩ ∧ style.validate = .ok () := by
  unfold ofJson
  by_cases hobject : document.isObject = true
  · rw [if_pos hobject]
    cases hvalid : (⟨document⟩ : Style).validate with
    | error e =>
        refine iff_of_false (by simp) ?_
        rintro ⟨-, rfl, hok⟩
        rw [hvalid] at hok
        simp at hok
    | ok accepted =>
        constructor
        · intro hstyle
          obtain rfl := Except.ok.inj hstyle
          exact ⟨hobject, rfl, hvalid⟩
        · rintro ⟨-, rfl, -⟩
          rfl
  · rw [if_neg hobject]
    exact iff_of_false (by simp) fun h => hobject h.1

theorem validate_standard : standard.validate = .ok () := by
  rfl

-- What a style says with a site's over it, one of the two says.
theorem get?_withSite {base site : Style} {path value : String} (h : (base.withSite site).get? path = some value) :
    base.get? path = some value ∨ site.get? path = some value :=
  Json.followString_merge h

theorem check_withSite {base site : Style} {path : String} (hbase : base.check path = .ok ())
    (hsite : site.check path = .ok ()) : (base.withSite site).check path = .ok () := by
  rw [check_eq_ok_iff] at hbase hsite ⊢
  intro value hvalue
  rcases get?_withSite hvalue with hb | hs
  · exact hbase value hb
  · exact hsite value hs

theorem validate_withSite {base site : Style} (hbase : base.validate = .ok ()) (hsite : site.validate = .ok ()) :
    (base.withSite site).validate = .ok () := by
  rw [validate_eq_ok_iff] at hbase hsite ⊢
  exact ⟨check_withSite hbase.1 hsite.1, check_withSite hbase.2 hsite.2⟩

-- So a chain of sites is accepted if each of them is.
theorem validate_foldl_withSite {base : Style} (hbase : base.validate = .ok ()) {sites : List Style}
    (hsites : ∀ site ∈ sites, site.validate = .ok ()) : (sites.foldl withSite base).validate = .ok () := by
  induction sites generalizing base with
  | nil => exact hbase
  | cons site rest ih =>
      exact ih (validate_withSite hbase (hsites site List.mem_cons_self)) fun other hm =>
        hsites other (List.mem_cons_of_mem _ hm)

-- The values that are there in place of missing ones fit their lines, too.
theorem fitsLine_getD {s : Style} {path value : String} (h : s.check path = .ok ()) (hvalue : FitsLine value) :
    FitsLine ((s.get? path).getD value) := by
  cases hget : s.get? path with
  | none => exact hvalue
  | some found => exact (check_eq_ok_iff s path).mp h found hget

theorem fitsLine_font {s : Style} (h : s.validate = .ok ()) : FitsLine s.font :=
  fitsLine_getD ((validate_eq_ok_iff s).mp h).1 ((breaksLine_eq_false_iff _).mp (by decide))

theorem fitsLine_color {s : Style} (h : s.validate = .ok ()) : FitsLine s.color :=
  fitsLine_getD ((validate_eq_ok_iff s).mp h).2 ((breaksLine_eq_false_iff _).mp (by decide))

theorem FitsLine.lineFeed_notMem {value : String} (h : FitsLine value) : '\n' ∉ value.toList := by
  intro hm
  have hcontrol := (h '\n' hm).2
  revert hcontrol
  decide

end Statechart.Style
