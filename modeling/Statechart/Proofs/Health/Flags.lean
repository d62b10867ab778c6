import Statechart.Proofs.Health.Sound

namespace Statechart

namespace Health

-- What a pass over a model looks for.
inductive Flag where
  | initial
  | invalidName
  | multipleInitialTransitions
  | duplicate
  | transitionFromInitial

def raised (h : Health) : Flag → Bool
  | .initial => h.hasInitial
  | .invalidName => h.hasInvalidName
  | .multipleInitialTransitions => h.hasMultipleInitialTransitions
  | .duplicate => h.hasDuplicate
  | .transitionFromInitial => h.hasTransitionFromInitial

-- A health is no more than its flags.
theorem eq_of_raised {h other : Health} (hraised : ∀ flag, h.raised flag = other.raised flag) : h = other := by
  rcases h with ⟨initial, invalid, multiple, duplicate, leaves⟩
  rcases other with ⟨initial', invalid', multiple', duplicate', leaves'⟩
  obtain rfl : initial = initial' := hraised .initial
  obtain rfl : invalid = invalid' := hraised .invalidName
  obtain rfl : multiple = multiple' := hraised .multipleInitialTransitions
  obtain rfl : duplicate = duplicate' := hraised .duplicate
  obtain rfl : leaves = leaves' := hraised .transitionFromInitial
  rfl

-- The flags that are up in one or the other.
def join (h other : Health) : Health where
  hasInitial := h.hasInitial || other.hasInitial
  hasInvalidName := h.hasInvalidName || other.hasInvalidName
  hasMultipleInitialTransitions := h.hasMultipleInitialTransitions || other.hasMultipleInitialTransitions
  hasDuplicate := h.hasDuplicate || other.hasDuplicate
  hasTransitionFromInitial := h.hasTransitionFromInitial || other.hasTransitionFromInitial

theorem raised_join (h other : Health) (flag : Flag) :
    (h.join other).raised flag = (h.raised flag || other.raised flag) := by
  cases flag <;> rfl

end Health

-- What an item has to be like to raise a flag.
def Item.Raises (item : Item) : Health.Flag → Prop
  | .initial => item.name = Name.initial ∧ item.attached = some true
  | .invalidName =>
      Name.isValid item.name = false ∨
        ∃ t ∈ item.transitions, ∃ target, t.next = some target ∧ Name.isValid target = false
  | .multipleInitialTransitions => item.name = Name.initial ∧ 2 ≤ item.transitions.length
  | .duplicate => item.invalid = some "true"
  | .transitionFromInitial => item.name = Name.initial ∧ ∃ t ∈ item.transitions, ∃ target, t.next = some target

namespace Health

theorem raised_ofItems_iff (items : List Item) (flag : Flag) :
    (ofItems items).raised flag = true ↔ ∃ item ∈ items, item.Raises flag := by
  cases flag with
  | initial => simp only [raised, hasInitial_iff, Item.isInitial_iff, Item.Raises]
  | invalidName =>
      have hraises (item : Item) :
          ¬(Name.isValid item.name = true ∧ ∀ target ∈ item.targets, Name.isValid target = true) ↔
            item.Raises .invalidName := by
        simp only [not_and_or, not_forall, exists_prop, Bool.not_eq_true, item.exists_mem_targets_iff, Item.Raises]
      simp only [raised, hasInvalidName_iff, hraises]
  | multipleInitialTransitions =>
      simp only [raised, hasMultipleInitialTransitions_iff, Item.isInitial_iff, Item.Raises]
  | duplicate => simp only [raised, hasDuplicate_iff, Item.isDuplicate, beq_iff_eq, Item.Raises]
  | transitionFromInitial =>
      have hleaves (item : Item) :
          item.targets ≠ [] ↔ ∃ t ∈ item.transitions, ∃ target, t.next = some target := by
        have hsome := item.exists_mem_targets_iff fun _ => True
        simp only [and_true] at hsome
        rw [← hsome]
        exact ⟨List.exists_mem_of_ne_nil _, fun ⟨_, hm⟩ => List.ne_nil_of_mem hm⟩
      simp only [raised, hasTransitionFromInitial_iff, Item.isInitial_iff, hleaves, Item.Raises]

-- What a pass finds out about a model is what some item of it raises, flag by flag. So the parts of a
-- model are looked at each for itself, and neither order nor repetition of its items counts.
theorem ofItems_homomorphism (items others : List Item) :
    (∀ flag, (ofItems items).raised flag = true ↔ ∃ item ∈ items, item.Raises flag) ∧
      ofItems (items ++ others) = (ofItems items).join (ofItems others) ∧
      ((∀ item, item ∈ items ↔ item ∈ others) → ofItems items = ofItems others) ∧
      (survey items).1 = ofItems items := by
  refine ⟨raised_ofItems_iff items, ?append, ?congr, by rw [survey_eq]⟩
  case append =>
    refine eq_of_raised fun flag => ?_
    rw [raised_join, Bool.eq_iff_iff, Bool.or_eq_true, raised_ofItems_iff, raised_ofItems_iff, raised_ofItems_iff]
    simp only [List.mem_append, or_and_right, exists_or]
  case congr =>
    intro hsame
    refine eq_of_raised fun flag => ?_
    rw [Bool.eq_iff_iff, raised_ofItems_iff, raised_ofItems_iff]
    simp only [hsame]

-- Each flag is raised by an item of its own, some of them by an initial pseudostate that raises no other.
def scattered : List Item :=
  [{ name := Name.initial, attached := some true }, { name := Name.initial, transitions := [{}, {}] },
    { transitions := [{ next := some "A B" }] }, { name := "A#FF5555", invalid := some "true" },
    { name := Name.initial, attached := some false, transitions := [{ next := some "A" }] }]

theorem ofItems_homomorphism_scattered :
    (∀ item, item ∈ scattered ↔ item ∈ scattered.reverse ++ scattered) ∧
      ofItems scattered = ofItems (scattered.reverse ++ scattered) ∧
      ofItems scattered = (ofItems (scattered.take 2)).join (ofItems (scattered.drop 2)) ∧
      ofItems scattered = ⟨true, true, true, true, true⟩ ∧
      ofItems (scattered.take 2) = ⟨true, false, true, false, false⟩ := by
  have hsame (item : Item) : item ∈ scattered ↔ item ∈ scattered.reverse ++ scattered := by simp
  obtain ⟨-, -, hcongr, -⟩ := ofItems_homomorphism scattered (scattered.reverse ++ scattered)
  obtain ⟨-, hjoin, -, -⟩ := ofItems_homomorphism (scattered.take 2) (scattered.drop 2)
  exact ⟨hsame, hcongr hsame, hjoin, by decide +kernel, by decide +kernel⟩

end Health

end Statechart
