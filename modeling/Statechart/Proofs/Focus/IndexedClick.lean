import Statechart.Item.Payload
import Statechart.Proofs.Focus.LastClick
import Statechart.Proofs.Text.Numeral

namespace Statechart

-- The place of a transition of an item, counted from zero and written as text, and where it leads.
def Item.Numbers (item : Item) (text target : String) : Prop :=
  ∃ n t, Text.Numeral text n ∧ n < UInt64.size ∧ item.transitions[n]? = some t ∧ t.next = some target

namespace Focus

variable {item : Item} {kind : Option ClickKind} {text : String} {stateName : Option String}

-- A click with a number in writing is on the transition that the number is the place of, and on no other.
theorem pointsTo_iff_numbers (target : String) :
    { item with
      click := some { kind := kind, number := Payload.index? (.string text), stateName := stateName } }.PointsTo target ↔
      kind ≠ none ∧ item.Numbers text target := by
  constructor
  · rintro ⟨click, blockKind, number, t, hclick, hkind, hnumber, ht, hnext⟩
    obtain rfl := Option.some.inj hclick
    have hnumeral : Text.Numeral text number.toNat := (Text.readIndex_eq_some_iff text number).mp hnumber
    refine ⟨?_, number.toNat, t, hnumeral, number.toNat_lt_size, ht, hnext⟩
    rw [show kind = some blockKind from hkind]
    simp
  · rintro ⟨hkind, n, t, hnumeral, hlt, ht, hnext⟩
    obtain ⟨blockKind, hblock⟩ := Option.ne_none_iff_exists'.mp hkind
    have hplace : (UInt64.ofNatLT n hlt).toNat = n := UInt64.toNat_ofNatLT
    refine ⟨_, blockKind, UInt64.ofNatLT n hlt, t, rfl, hblock, ?_, hplace.symm ▸ ht, hnext⟩
    exact (Text.readIndex_eq_some_iff text _).mpr (hplace.symm ▸ hnumeral)

-- A number in writing is read as it stands or not at all: it never wraps around. So a click whose number
-- is a text records the target of the transition at that place, or leaves a focus as it is.
theorem observeIndex_numeral (text : String) :
    (∀ n, (Payload.index? (.string text)).map UInt64.toNat = some n ↔ Text.Numeral text n ∧ n < UInt64.size) ∧
      (Payload.index? (.string text) = none ↔ ∀ n, Text.Numeral text n → UInt64.size ≤ n) ∧
      ∀ (f : Focus) (item : Item) (kind : Option ClickKind) (stateName : Option String),
        let clicked : Item :=
          { item with
            click := some { kind := kind, number := Payload.index? (.string text), stateName := stateName } }
        (∃ target, kind ≠ none ∧ item.Numbers text target ∧
            f.observeIndex clicked = { f with target := some target }) ∨
          (∀ target, kind ≠ none → ¬item.Numbers text target) ∧ f.observeIndex clicked = f := by
  refine ⟨Text.map_readIndex_eq_some_iff text, Text.readIndex_eq_none_iff text, fun f item kind stateName => ?_⟩
  intro clicked
  cases hclicked : clickedTarget? clicked with
  | some target =>
      obtain ⟨hkind, hnumbers⟩ :=
        (pointsTo_iff_numbers target).mp ((clickedTarget?_eq_some_iff clicked target).mp hclicked)
      exact .inl ⟨target, hkind, hnumbers, by rw [observeIndex, hclicked]⟩
  | none =>
      refine .inr ⟨fun target hkind hnumbers => ?_, by rw [observeIndex, hclicked]⟩
      have hpoints : clicked.PointsTo target := (pointsTo_iff_numbers target).mpr ⟨hkind, hnumbers⟩
      rw [(clickedTarget?_eq_some_iff clicked target).mpr hpoints] at hclicked
      simp at hclicked

end Focus

end Statechart
