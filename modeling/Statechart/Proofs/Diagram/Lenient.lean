import Mathlib.Logic.Relation
import Statechart.Diagram.Basic
import Statechart.Proofs.Health.Sound
import Statechart.Proofs.Item.Noise

namespace Statechart

theorem Health.ofItems_settled (items : List Item) : ofItems (items.map Item.settled) = ofItems items := by
  have hobserve (h : Health) (item : Item) : h.observe item.settled = h.observe item := by
    have hattached : (item.settled.attached == some true) = (item.attached == some true) := by
      rcases item with ⟨_, _, _, _ | (_ | _), _, _, _⟩ <;> rfl
    simp only [observe, hattached]
    rfl
  simp only [ofItems, List.foldl_map, hobserve]

-- Nothing that is drawn of an item tells whether it is attached.
theorem Drawing.ofItems_settled (items : List Item) (focus : Focus) :
    ofItems (items.map Item.settled) focus = ofItems items focus := by
  simp only [ofItems, states, activeState, targets, List.map_map, List.flatMap_map, List.foldl_map]
  rfl

theorem Diagram.ofItems_settled (style : Style) (items : List Item) :
    ofItems style (items.map Item.settled) = ofItems style items := by
  have hindex : (items.map Item.settled).foldl Focus.observeIndex {} = items.foldl Focus.observeIndex {} := by
    rw [List.foldl_map]
    rfl
  simp only [ofItems, survey_eq, Health.ofItems_settled, hindex, Drawing.ofItems_settled]

namespace Payload

theorem map_settled_read_eq {value other : Json} (h : Relation.EqvGen (Noise .payload) value other) :
    (read value).map (List.map Item.settled) = (read other).map (List.map Item.settled) := by
  induction h with
  | rel value other h => exact h.read_eq
  | refl value => rfl
  | symm value other _ ih => exact ih.symm
  | trans value between other _ _ ihv iho => exact ihv.trans iho

-- Noise in a payload, added or taken away at any depth and any number of times, does not show: the
-- model may differ in what is written about an item, but neither its health nor its diagram does.
theorem ofItems_of_noise {entries : List Json} {other : Json}
    (h : Relation.EqvGen (Noise .payload) (.array entries) other) :
    ∃ items others, read (.array entries) = .ok items ∧ read other = .ok others ∧
      Health.ofItems others = Health.ofItems items ∧
      ∀ style, Diagram.ofItems style others = Diagram.ofItems style items := by
  have hread := map_settled_read_eq h
  cases hother : read other with
  | error refused =>
      rw [hother] at hread
      simp [read, Except.map] at hread
  | ok others =>
      have hsettled : ((entries.filter Json.isObject).map item).map Item.settled = others.map Item.settled := by
        rw [hother] at hread
        exact Except.ok.inj hread
      refine ⟨_, others, rfl, rfl, ?_, fun style => ?_⟩
      · rw [← Health.ofItems_settled others, ← hsettled, Health.ofItems_settled]
      · rw [← Diagram.ofItems_settled style others, ← hsettled, Diagram.ofItems_settled]

-- A click on the second of two transitions. The editor may say more than is read.
def clickedState (first : Json) (more moreOfClick : Json.Members) : Json :=
  .object
    ([("state", .string "A"), ("transition", .array [first, .object [("nextState", .string "B")]]),
      ("click", .object ([("type", .string "changeStateType"), ("number", .number (.natural 1))] ++ moreOfClick))] ++
      more)

def attachedStart : Json.Members :=
  [("state", .string Name.initial), ("myself", .object [("condition", .bool true)]),
    ("transition", .array [.object [("nextState", .string "A")]])]

theorem ofItems_of_noise_clickedState :
    let plain := Json.array [.object attachedStart, clickedState (.object []) [] []]
    let noisy := Json.array
      [.string "-", .object attachedStart.reverse, clickedState .null [("myself", .null)] [("stateName", .array [])]]
    Relation.EqvGen (Noise .payload) plain noisy ∧
      ∃ items others, read plain = .ok items ∧ read noisy = .ok others ∧ others ≠ items ∧
        (Health.ofItems items).firstViolation = none ∧ Health.ofItems others = Health.ofItems items ∧
        ∀ style, Diagram.ofItems style others = Diagram.ofItems style items := by
  intro plain noisy
  have hstray : Noise .payload plain
      (.array [.string "-", .object attachedStart, clickedState (.object []) [] []]) :=
    .stray [] _ rfl
  have hreordered : Noise .payload
      (.array [.string "-", .object attachedStart, clickedState (.object []) [] []])
      (.array [.string "-", .object attachedStart.reverse, clickedState (.object []) [] []]) :=
    .element [_] [_] (.reordered (by decide +kernel) (List.reverse_perm _).symm)
  have hentry : Noise .payload
      (.array [.string "-", .object attachedStart.reverse, clickedState .null [] []])
      (.array [.string "-", .object attachedStart.reverse, clickedState (.object []) [] []]) :=
    .element [_, _] [] (.member [_] [_] (.entry [] [_] rfl))
  have hidle : Noise .payload
      (.array [.string "-", .object attachedStart.reverse, clickedState .null [] []])
      (.array [.string "-", .object attachedStart.reverse, clickedState .null [("myself", .null)] []]) :=
    .element [_, _] [] (.idle [_, _, _] [] (.inl ⟨by decide, rfl⟩) (by decide +kernel))
  have hclick : Noise .payload
      (.array [.string "-", .object attachedStart.reverse, clickedState .null [("myself", .null)] []]) noisy :=
    .element [_, _] [] (.member [_, _] [_] (.idle [_, _] [] (.inr ⟨by decide, .inr rfl⟩) (by decide +kernel)))
  have hnoise : Relation.EqvGen (Noise .payload) plain noisy :=
    .trans _ _ _ (.rel _ _ hstray) <| .trans _ _ _ (.rel _ _ hreordered) <|
      .trans _ _ _ (.symm _ _ (.rel _ _ hentry)) <| .trans _ _ _ (.rel _ _ hidle) (.rel _ _ hclick)
  obtain ⟨items, others, hitems, hothers, hhealth, hdiagram⟩ := ofItems_of_noise hnoise
  refine ⟨hnoise, items, others, hitems, hothers, ?_, ?_, hhealth, hdiagram⟩
  · -- only the noisy payload says of the second state that it is not attached
    rintro rfl
    have hdiffer : (read plain).toOption ≠ (read noisy).toOption := by decide +kernel
    exact hdiffer (congrArg Except.toOption (hitems.trans hothers.symm))
  · obtain rfl := Except.ok.inj hitems
    decide +kernel

end Payload

end Statechart
