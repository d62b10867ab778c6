import Statechart.Proofs.Diagram.Coverage
import Statechart.Proofs.Focus.LastClick
import Statechart.Proofs.States.FirstSeen

namespace Statechart

variable {items others : List Item}

theorem Health.ofItems_eq_of_perm (h : items.Perm others) : ofItems items = ofItems others := by
  rw [ofItems_eq, ofItems_eq, h.any_eq, h.any_eq, h.any_eq, h.any_eq, h.any_eq]

theorem targets_perm (h : items.Perm others) : (targets items).Perm (targets others) :=
  h.flatMap_right Item.targets

-- Which states are collected does not depend on the order, only where they stand does.
theorem states_perm (h : items.Perm others) : (states items).Perm (states others) := by
  have hwritten : (writtenNames items).Perm (writtenNames others) := (h.map Item.name).append (targets_perm h)
  have hnodup (models : List Item) : (states models).Nodup := nodup_of_firstSeen (eraseDups_firstSeen _)
  rw [List.perm_ext_iff_of_nodup (hnodup items) (hnodup others)]
  intro name
  simp only [mem_states_iff, hwritten.mem_iff]

theorem activeState_eq_of_perm (h : items.Perm others)
    (hsame : ∀ a ∈ targets items, ∀ b ∈ targets items, Name.isMarked a = true → Name.isMarked b = true → a = b) :
    activeState items = activeState others :=
  find?_eq_of_perm (targets_perm h) hsame

namespace Focus

theorem isSome_clickKind?_of_clickedTarget? {item : Item} (h : (clickedTarget? item).isSome = true) :
    item.clickKind?.isSome = true := by
  obtain ⟨target, htarget⟩ := Option.isSome_iff_exists.mp h
  obtain ⟨click, kind, -, -, hclick, hkind, -⟩ := (clickedTarget?_eq_some_iff item target).mp htarget
  rw [Item.clickKind?, hclick, Option.bind_some, hkind]
  rfl

-- The last click is the only one, so it is that in any order.
theorem ofItems_eq_of_perm (h : items.Perm others) (hone : items.countP (·.clickKind?.isSome) ≤ 1) :
    ofItems items = ofItems others := by
  have hreverse : items.reverse.Perm others.reverse :=
    (List.reverse_perm items).trans (h.trans (List.reverse_perm others).symm)
  have hsame {x y : Item} (hx : x ∈ items.reverse) (hy : y ∈ items.reverse) (hxk : x.clickKind?.isSome = true)
      (hyk : y.clickKind?.isSome = true) : x = y :=
    eq_of_countP_le_one hone (List.mem_reverse.mp hx) (List.mem_reverse.mp hy) hxk hyk
  have hblock : (ofItems items).block = (ofItems others).block := by
    rw [block_ofItems, block_ofItems]
    refine findSome?_eq_of_perm hreverse fun x hx y hy hxb hyb => hsame hx hy ?_ ?_
    · simpa [blockOf?] using hxb
    · simpa [blockOf?] using hyb
  have htarget : (ofItems items).target = (ofItems others).target := by
    rw [target_ofItems, target_ofItems]
    exact findSome?_eq_of_perm hreverse fun x hx y hy hxt hyt =>
      hsame hx hy (isSome_clickKind?_of_clickedTarget? hxt) (isSome_clickKind?_of_clickedTarget? hyt)
  exact congrArg₂ Focus.mk hblock htarget

end Focus

-- The order of the items shows in the order of what is drawn, and in nothing else: what is said about
-- an item is said by the item alone. One click and one active state are found in any order.
theorem render_perm (style : Style) (h : items.Perm others) :
    let diagram := Diagram.ofItems style items
    let reordered := Diagram.ofItems style others
    let text (item : Item) : String := String.join (item.owed style.color)
    reordered.notice? = diagram.notice? ∧
      (∀ notice, diagram.notice? = some notice → reordered.render = diagram.render) ∧
      (diagram.notice? = none →
        ∃ declared reorderedDeclared : List String, ∃ highlight reorderedHighlight : Option Highlight,
          diagram.render =
            Diagram.header style.font ++ String.join (declared.map declaration) ++ String.join (items.map text) ++
              ((highlight.map fun h => h.render style.color ++ "\n").getD "") ++ "@enduml" ∧
          reordered.render =
            Diagram.header style.font ++ String.join (reorderedDeclared.map declaration) ++
              String.join (others.map text) ++
              ((reorderedHighlight.map fun h => h.render style.color ++ "\n").getD "") ++ "@enduml" ∧
          diagram.body = .drawing ⟨declared, items.map Item.statements, highlight⟩ ∧
          reordered.body = .drawing ⟨reorderedDeclared, others.map Item.statements, reorderedHighlight⟩ ∧
          (reorderedDeclared.map declaration).Perm (declared.map declaration) ∧
          (others.map text).Perm (items.map text) ∧
          (items.countP (·.clickKind?.isSome) ≤ 1 →
            (∀ a ∈ targets items, ∀ b ∈ targets items,
              Name.marker.toList <:+: a.toList → Name.marker.toList <:+: b.toList → a = b) →
            reorderedHighlight = highlight)) := by
  intro diagram reordered text
  have hhealth : Health.ofItems others = Health.ofItems items := (Health.ofItems_eq_of_perm h).symm
  refine ⟨Diagram.notice?_congr style hhealth, fun notice => Diagram.render_congr_of_notice style hhealth, ?_⟩
  intro hnone
  rw [Diagram.notice?_ofItems] at hnone
  have hsound := (Health.firstViolation_eq_none_iff items).mp hnone
  have hsoundReordered := (Health.firstViolation_eq_none_iff others).mp (hhealth ▸ hnone)
  obtain ⟨drawing, hbody, rfl, -, hrender⟩ := hsound.render_eq style
  obtain ⟨other, hbodyReordered, rfl, -, hrenderReordered⟩ := hsoundReordered.render_eq style
  refine ⟨_, _, _, _, hrender, hrenderReordered, hbody, hbodyReordered, ?_, h.symm.map text, ?_⟩
  · exact ((states_perm h).symm.filter _).map declaration
  · intro hone hsame
    simp only [← Text.mentions_iff] at hsame
    have hfocus := Focus.ofItems_eq_of_perm h hone
    have hactive := activeState_eq_of_perm h hsame
    exact (congrArg₂ Focus.highlight? hfocus hactive).symm

-- A model with one click and one active state, which two edges lead to.
def clickedOnce : List Item :=
  [{ name := Name.initial, attached := some true, transitions := [{ next := some "A#FF5555" }] },
    { name := "B"
      transitions := [{ next := some "A#FF5555" }]
      click := some { kind := some (.block .stateAction), number := some 0 } },
    { name := "A", transitions := [{ next := some "B" }] }]

theorem render_perm_clickedOnce :
    clickedOnce.Perm clickedOnce.reverse ∧ (Diagram.ofItems .standard clickedOnce).notice? = none ∧
      ∃ declared reorderedDeclared : List String, ∃ highlight : Highlight,
        (Diagram.ofItems .standard clickedOnce).body =
          .drawing ⟨declared, clickedOnce.map Item.statements, some highlight⟩ ∧
        (Diagram.ofItems .standard clickedOnce.reverse).body =
          .drawing ⟨reorderedDeclared, clickedOnce.reverse.map Item.statements, some highlight⟩ ∧
        (reorderedDeclared.map declaration).Perm (declared.map declaration) ∧
        reorderedDeclared ≠ declared := by
  have hperm : clickedOnce.Perm clickedOnce.reverse := (List.reverse_perm clickedOnce).symm
  have hnone : (Diagram.ofItems .standard clickedOnce).notice? = none := by decide +kernel
  have hsame : ∀ a ∈ targets clickedOnce, ∀ b ∈ targets clickedOnce,
      Name.marker.toList <:+: a.toList → Name.marker.toList <:+: b.toList → a = b := by
    simp only [← Text.mentions_iff]
    decide +kernel
  obtain ⟨-, -, hdrawn⟩ := render_perm .standard hperm
  obtain ⟨declared, reorderedDeclared, highlight, reorderedHighlight, -, -, hbody, hreordered, hdeclared, -, hlight⟩ :=
    hdrawn hnone
  have hsomeone : (Drawing.ofItems clickedOnce (clickedOnce.foldl Focus.observeIndex {})).highlight =
      some ⟨"A#FF5555", .action, true⟩ := by decide +kernel
  have hequal := hlight (by decide) hsame
  obtain ⟨rfl, -, rfl⟩ := Drawing.mk.inj (Body.drawing.inj hbody)
  obtain ⟨rfl, -, rfl⟩ := Drawing.mk.inj (Body.drawing.inj hreordered)
  refine ⟨hperm, hnone, _, _, ⟨"A#FF5555", .action, true⟩, ?_, ?_, hdeclared, by decide +kernel⟩
  · rw [hbody]
    exact congrArg (fun highlight => Body.drawing ⟨_, _, highlight⟩) hsomeone
  · rw [hreordered, hequal]
    exact congrArg (fun highlight => Body.drawing ⟨_, _, highlight⟩) hsomeone

end Statechart
