import Mathlib.Tactic.Push
import Statechart.Focus

namespace Statechart

-- A model with nothing wrong in it. The initial pseudostate may stand in the list more than once:
-- one of its items has to be attached, one has to lead somewhere, and none has two transitions.
structure Sound (items : List Item) : Prop where
  attached : ∃ item ∈ items, item.isInitial = true ∧ item.attached = some true
  validName : ∀ item ∈ items, Name.isValid item.name = true
  validTarget : ∀ item ∈ items, ∀ target ∈ item.targets, Name.isValid target = true
  single : ∀ item ∈ items, item.isInitial = true → item.transitions.length ≤ 1
  notDuplicate : ∀ item ∈ items, item.isDuplicate = false
  leaves : ∃ item ∈ items, item.isInitial = true ∧ item.targets ≠ []

namespace Item

theorem isInitial_iff (item : Item) : item.isInitial = true ↔ item.name = Name.initial := by
  simp [isInitial]

theorem mem_targets_iff (item : Item) (target : String) :
    target ∈ item.targets ↔ ∃ t ∈ item.transitions, t.next = some target := by
  simp [targets, targeted]

theorem exists_mem_targets_iff (item : Item) (p : String → Prop) :
    (∃ target ∈ item.targets, p target) ↔ ∃ t ∈ item.transitions, ∃ target, t.next = some target ∧ p target := by
  simp only [mem_targets_iff]
  constructor
  · rintro ⟨target, ⟨t, ht, hnext⟩, htarget⟩
    exact ⟨t, ht, target, hnext, htarget⟩
  · rintro ⟨t, ht, target, hnext, htarget⟩
    exact ⟨target, ⟨t, ht, hnext⟩, htarget⟩

end Item

namespace Health

-- A pass raises each flag that was up before it or that some item raises.
theorem foldl_observe (h : Health) (items : List Item) :
    items.foldl observe h =
      { hasInitial := h.hasInitial || items.any fun item => item.isInitial && item.attached == some true
        hasInvalidName := h.hasInvalidName ||
          items.any fun item => !(Name.isValid item.name && item.targets.all Name.isValid)
        hasMultipleInitialTransitions := h.hasMultipleInitialTransitions ||
          items.any fun item => item.isInitial && 2 ≤ item.transitions.length
        hasDuplicate := h.hasDuplicate || items.any Item.isDuplicate
        hasTransitionFromInitial := h.hasTransitionFromInitial ||
          items.any fun item => item.isInitial && !item.targets.isEmpty } := by
  induction items generalizing h with
  | nil => simp
  | cons item rest ih => simp only [List.foldl_cons, ih, observe, List.any_cons, Bool.or_assoc]

theorem ofItems_eq (items : List Item) :
    ofItems items =
      { hasInitial := items.any fun item => item.isInitial && item.attached == some true
        hasInvalidName := items.any fun item => !(Name.isValid item.name && item.targets.all Name.isValid)
        hasMultipleInitialTransitions := items.any fun item => item.isInitial && 2 ≤ item.transitions.length
        hasDuplicate := items.any Item.isDuplicate
        hasTransitionFromInitial := items.any fun item => item.isInitial && !item.targets.isEmpty } := by
  simp only [ofItems, foldl_observe, Bool.false_or]

theorem hasInitial_iff (items : List Item) :
    (ofItems items).hasInitial = true ↔ ∃ item ∈ items, item.isInitial = true ∧ item.attached = some true := by
  simp [ofItems_eq]

theorem hasInvalidName_iff (items : List Item) :
    (ofItems items).hasInvalidName = true ↔
      ∃ item ∈ items, ¬(Name.isValid item.name = true ∧ ∀ target ∈ item.targets, Name.isValid target = true) := by
  simp only [ofItems_eq, List.any_eq_true, Bool.not_eq_true', ← Bool.not_eq_true, Bool.and_eq_true,
    List.all_eq_true]

theorem hasMultipleInitialTransitions_iff (items : List Item) :
    (ofItems items).hasMultipleInitialTransitions = true ↔
      ∃ item ∈ items, item.isInitial = true ∧ 2 ≤ item.transitions.length := by
  simp [ofItems_eq]

theorem hasDuplicate_iff (items : List Item) :
    (ofItems items).hasDuplicate = true ↔ ∃ item ∈ items, item.isDuplicate = true := by
  simp [ofItems_eq]

theorem hasTransitionFromInitial_iff (items : List Item) :
    (ofItems items).hasTransitionFromInitial = true ↔
      ∃ item ∈ items, item.isInitial = true ∧ item.targets ≠ [] := by
  simp [ofItems_eq]

theorem firstViolation_eq_none (h : Health) :
    h.firstViolation = none ↔
      h.hasInitial = true ∧ h.hasInvalidName = false ∧ h.hasMultipleInitialTransitions = false ∧
        h.hasDuplicate = false ∧ h.hasTransitionFromInitial = true := by
  rcases h with ⟨initial, invalid, multiple, duplicate, leaves⟩
  cases initial <;> cases invalid <;> cases multiple <;> cases duplicate <;> cases leaves <;>
    simp [firstViolation]

theorem firstViolation_eq_none_iff (items : List Item) :
    (ofItems items).firstViolation = none ↔ Sound items := by
  rw [firstViolation_eq_none, ← Bool.not_eq_true, ← Bool.not_eq_true, ← Bool.not_eq_true, hasInitial_iff,
    hasInvalidName_iff, hasMultipleInitialTransitions_iff, hasDuplicate_iff, hasTransitionFromInitial_iff]
  constructor
  · rintro ⟨hattached, hvalid, hsingle, hfresh, hleaves⟩
    push Not at hvalid hsingle hfresh
    refine ⟨hattached, fun item hm => (hvalid item hm).1, fun item hm => (hvalid item hm).2, ?_,
      fun item hm => Bool.eq_false_iff.mpr (hfresh item hm), hleaves⟩
    intro item hm hinitial
    have := hsingle item hm hinitial
    omega
  · rintro ⟨hattached, hname, htarget, hsingle, hfresh, hleaves⟩
    refine ⟨hattached, ?_, ?_, ?_, hleaves⟩
    · rintro ⟨item, hm, hinvalid⟩
      exact hinvalid ⟨hname item hm, htarget item hm⟩
    · rintro ⟨item, hm, hinitial, htwo⟩
      have := hsingle item hm hinitial
      omega
    · rintro ⟨item, hm, hduplicate⟩
      simp [hfresh item hm] at hduplicate

end Health

-- The pass that also gathers clicks finds the same health.
theorem survey_eq (items : List Item) :
    survey items = (Health.ofItems items, items.foldl Focus.observeIndex {}) := by
  have hfold (h : Health) (f : Focus) :
      items.foldl (fun found item => (found.1.observe item, found.2.observeIndex item)) (h, f) =
        (items.foldl Health.observe h, items.foldl Focus.observeIndex f) := by
    induction items generalizing h f with
    | nil => rfl
    | cons item rest ih => simp only [List.foldl_cons, ih]
  exact hfold {} {}

end Statechart
