import Statechart.Diagram.Basic
import Statechart.Proofs.Health.Sound

namespace Statechart

namespace Diagram

theorem ofItems_eq (style : Style) (items : List Item) :
    ofItems style items =
      { font := style.font
        color := style.color
        body := match (Health.ofItems items).firstViolation with
          | some notice => .notice notice
          | none => .drawing (.ofItems items (items.foldl Focus.observeIndex {})) } :=
  congrArg (fun found : Health × Focus => Diagram.mk style.font style.color
    (match found.1.firstViolation with
      | some notice => .notice notice
      | none => .drawing (.ofItems items found.2))) (survey_eq items)

theorem notice?_ofItems (style : Style) (items : List Item) :
    (ofItems style items).notice? = (Health.ofItems items).firstViolation := by
  rw [ofItems_eq, notice?]
  cases (Health.ofItems items).firstViolation <;> rfl

-- The document of a model that is not drawn.
theorem render_eq_of_violation (style : Style) {items : List Item} {notice : Notice}
    (h : (Health.ofItems items).firstViolation = some notice) :
    (ofItems style items).render = header style.font ++ notice.note ++ "@enduml" := by
  rw [render, ofItems_eq, h]
  rfl

-- Models of the same health have the same notice, and if there is one, the same document.
theorem notice?_congr (style : Style) {items others : List Item} (h : Health.ofItems others = Health.ofItems items) :
    (ofItems style others).notice? = (ofItems style items).notice? := by
  rw [notice?_ofItems, notice?_ofItems, h]

theorem render_congr_of_notice (style : Style) {items others : List Item}
    (h : Health.ofItems others = Health.ofItems items) {notice : Notice}
    (hnotice : (ofItems style items).notice? = some notice) :
    (ofItems style others).render = (ofItems style items).render := by
  rw [notice?_ofItems] at hnotice
  rw [render_eq_of_violation style hnotice, render_eq_of_violation style (h ▸ hnotice)]

-- The document of a model that is drawn, part by part.
theorem render_eq (style : Style) (items : List Item)
    (h : (Health.ofItems items).firstViolation = none) :
    ∃ drawing, (ofItems style items).body = .drawing drawing ∧
      drawing = .ofItems items (items.foldl Focus.observeIndex {}) ∧
      (ofItems style items).render =
        header style.font ++
          (String.join (drawing.declared.map declaration) ++
            String.join (drawing.chunks.map (chunk style.color)) ++
            ((drawing.highlight.map fun h => h.render style.color ++ "\n").getD "")) ++ "@enduml" := by
  simp only [ofItems_eq, h]
  exact ⟨_, rfl, rfl, rfl⟩

end Diagram

namespace Item

-- The line for a part of an item's behaviour.
def behaviorLine (color : String) (item : Item) (rule : Rule) (text : String) : String :=
  item.name ++ " : " ++ Statement.ruleLabel color rule (item.clickKind?.bind ClickKind.rule? == some rule) ++
    " / " ++ text ++ "\n"

-- The edges and lines that a diagram owes to an item, each as it is written. Every transition that
-- has a target gets its edge, also from the initial pseudostate.
def owed (color : String) (item : Item) : List String :=
  let arrow := (Arrow.of item).render color
  if item.name = Name.initial then
    item.transitions.flatMap fun t => t.next.toList.map fun target =>
      "[*] " ++ arrow ++ " " ++ Name.token target ++ ((t.effect.map fun effect => " : / " ++ effect).getD "") ++
        "\n" ++ Statement.startNote t.event.isSome t.guard.isSome
  else if item.name = "" then []
  else
    (item.transitions.flatMap fun t => t.next.toList.map fun target =>
      item.name ++ " " ++ arrow ++ " " ++ Name.token target ++
        ((t.label?.map fun label => " :" ++ label).getD "") ++ "\n") ++
      item.behavior.entry.toList.map (item.behaviorLine color .entry) ++
      item.behavior.activity.toList.map (item.behaviorLine color .activity) ++
      item.behavior.exit.toList.map (item.behaviorLine color .exit)

-- What is drawn of a transition depends on its target being there, not on its place.
theorem map_targeted {α : Type} (item : Item) (f : Transition × String → α) :
    item.targeted.map f = item.transitions.flatMap fun t => t.next.toList.map fun target => f (t, target) := by
  rw [targeted]
  induction item.transitions with
  | nil => rfl
  | cons t rest ih => cases hnext : t.next <;> simp [hnext, ih]

-- With at most one transition the first is all there are.
theorem startStatements_eq (item : Item) (h : item.transitions.length ≤ 1) :
    item.startStatements = item.targeted.map fun (t, target) =>
      .start (.of item) target t.effect t.event.isSome t.guard.isSome := by
  rw [startStatements, targeted]
  cases ht : item.transitions with
  | nil => rfl
  | cons t rest =>
      have hrest : rest = [] := by simpa [ht] using h
      subst hrest
      cases hnext : t.next <;> simp [hnext]

-- What is said about an item: a start or edges for transitions with a target, and its behaviour.
theorem mem_statements {item : Item} {s : Statement} (hs : s ∈ item.statements) :
    (item.isInitial = true ∧ ∃ t target, (t, target) ∈ item.targeted ∧
        s = .start (.of item) target t.effect t.event.isSome t.guard.isSome) ∨
      (item.isInitial ≠ true ∧ item.name ≠ "" ∧
        ((∃ t target, (t, target) ∈ item.targeted ∧ s = .edge item.name (.of item) target t.label?) ∨
          ∃ rule text, (rule, text) ∈ item.behavior.rules ∧
            s = .behavior item.name rule (item.clickKind?.bind ClickKind.rule? == some rule) text)) := by
  unfold statements at hs
  split at hs
  · rename_i hinitial
    refine .inl ⟨hinitial, ?_⟩
    unfold startStatements at hs
    split at hs
    · simp at hs
    · rename_i t rest htransitions
      cases hnext : t.next with
      | none => simp [hnext] at hs
      | some target =>
          refine ⟨t, target, ?_, by simpa [hnext] using hs⟩
          exact List.mem_filterMap.mpr ⟨t, by simp [htransitions], by simp [hnext]⟩
  · rename_i hinitial
    split at hs
    · simp at hs
    · rename_i hname
      refine .inr ⟨hinitial, hname, ?_⟩
      rcases List.mem_append.mp hs with hedge | hbehavior
      · obtain ⟨⟨t, target⟩, ht, rfl⟩ := List.mem_map.mp hedge
        exact .inl ⟨t, target, ht, rfl⟩
      · obtain ⟨⟨rule, text⟩, hr, rfl⟩ := List.mem_map.mp hbehavior
        exact .inr ⟨rule, text, hr, rfl⟩

theorem render_behaviorStatements (color : String) (item : Item) :
    item.behaviorStatements.map (Statement.render color) =
      item.behavior.entry.toList.map (item.behaviorLine color .entry) ++
        item.behavior.activity.toList.map (item.behaviorLine color .activity) ++
        item.behavior.exit.toList.map (item.behaviorLine color .exit) := by
  simp only [behaviorStatements, Behavior.rules]
  cases hentry : item.behavior.entry <;> cases hactivity : item.behavior.activity <;>
    cases hexit : item.behavior.exit <;>
    simp [Behavior.part, hentry, hactivity, hexit, Statement.render, behaviorLine]

theorem render_statements (color : String) (item : Item)
    (h : item.isInitial = true → item.transitions.length ≤ 1) :
    item.statements.map (Statement.render color) = item.owed color := by
  unfold statements owed
  by_cases hinitial : item.isInitial = true
  · rw [if_pos hinitial, if_pos ((isInitial_iff item).mp hinitial), startStatements_eq item (h hinitial),
      List.map_map, map_targeted]
    rfl
  · rw [if_neg hinitial, if_neg (fun hn => hinitial ((isInitial_iff item).mpr hn))]
    by_cases hname : item.name = ""
    · rw [if_pos hname, if_pos hname, List.map_nil]
    · rw [if_neg hname, if_neg hname, List.map_append, render_behaviorStatements, edgeStatements, List.map_map,
        map_targeted, ← List.append_assoc, ← List.append_assoc]
      rfl

end Item

theorem Sound.render_statements {items : List Item} (h : Sound items) (color : String) {item : Item}
    (hm : item ∈ items) : item.statements.map (Statement.render color) = item.owed color :=
  item.render_statements color (h.single item hm)

-- A sound model leaves the initial pseudostate.
theorem Sound.exists_start {items : List Item} (h : Sound items) (color : String) :
    ∃ item ∈ items, item.name = Name.initial ∧ ∃ edge ∈ item.owed color, "[*] ".toList <+: edge.toList := by
  obtain ⟨item, hm, hinitial, htargets⟩ := h.leaves
  obtain ⟨target, htarget⟩ := List.exists_mem_of_ne_nil _ htargets
  obtain ⟨⟨t, next⟩, ht, -⟩ := List.mem_map.mp htarget
  have hname := item.isInitial_iff.mp hinitial
  have hstart : .start (.of item) next t.effect t.event.isSome t.guard.isSome ∈ item.statements := by
    rw [Item.statements, if_pos hinitial, item.startStatements_eq (h.single item hm hinitial)]
    exact List.mem_map.mpr ⟨_, ht, rfl⟩
  refine ⟨item, hm, hname, _, h.render_statements color hm ▸ List.mem_map_of_mem hstart, ?_⟩
  simp [Statement.render]

-- No target of an initial item stands behind its first transition.
theorem Sound.head_of_targeted {items : List Item} (h : Sound items) {item : Item} (hm : item ∈ items)
    (hinitial : item.name = Name.initial) {t : Transition} (ht : t ∈ item.transitions) :
    item.transitions.head? = some t := by
  have hlength := h.single item hm (item.isInitial_iff.mpr hinitial)
  obtain ⟨i, hi, rfl⟩ := List.getElem_of_mem ht
  have hzero : i = 0 := by omega
  subst hzero
  exact List.head?_eq_getElem? ▸ List.getElem?_eq_getElem hi

-- The document of a sound model, part by part.
theorem Sound.render_eq {items : List Item} (h : Sound items) (style : Style) :
    ∃ drawing, (Diagram.ofItems style items).body = .drawing drawing ∧
      drawing = .ofItems items (items.foldl Focus.observeIndex {}) ∧
      drawing.chunks.map (List.map (Statement.render style.color)) = items.map (Item.owed style.color) ∧
      (Diagram.ofItems style items).render =
        Diagram.header style.font ++ String.join (drawing.declared.map declaration) ++
          String.join (items.map fun item => String.join (item.owed style.color)) ++
          ((drawing.highlight.map fun h => h.render style.color ++ "\n").getD "") ++ "@enduml" := by
  obtain ⟨drawing, hbody, hdrawing, hrender⟩ :=
    Diagram.render_eq style items ((Health.firstViolation_eq_none_iff items).mpr h)
  have hchunks : drawing.chunks.map (List.map (Statement.render style.color)) =
      items.map (Item.owed style.color) := by
    rw [hdrawing, Drawing.ofItems, List.map_map]
    exact List.map_congr_left fun item hm => h.render_statements style.color hm
  have htext : drawing.chunks.map (chunk style.color) =
      items.map fun item => String.join (item.owed style.color) := by
    have := congrArg (List.map String.join) hchunks
    rwa [List.map_map, List.map_map] at this
  refine ⟨drawing, hbody, hdrawing, hchunks, ?_⟩
  rw [hrender, htext]
  simp only [String.append_assoc]

-- Between the declarations and the highlight the document of an accepted model holds what it owes
-- to its items, item by item and nothing else. Some edge leaves the initial pseudostate, and no
-- transition of an initial item that has a target is passed over.
theorem render_owes_items (style : Style) (items : List Item)
    (h : (Health.ofItems items).firstViolation = none) :
    ∃ drawing, (Diagram.ofItems style items).body = .drawing drawing ∧
      (Diagram.ofItems style items).render =
        Diagram.header style.font ++ String.join (drawing.declared.map declaration) ++
          String.join (items.map fun item => String.join (item.owed style.color)) ++
          ((drawing.highlight.map fun h => h.render style.color ++ "\n").getD "") ++ "@enduml" ∧
      drawing.chunks.map (List.map (Statement.render style.color)) = items.map (Item.owed style.color) ∧
      (∃ item ∈ items, item.name = Name.initial ∧
        ∃ edge ∈ item.owed style.color, "[*] ".toList <+: edge.toList) ∧
      ∀ item ∈ items, item.name = Name.initial →
        ∀ t ∈ item.transitions, t.next.isSome = true → item.transitions.head? = some t := by
  have hsound := (Health.firstViolation_eq_none_iff items).mp h
  obtain ⟨drawing, hbody, -, hchunks, hrender⟩ := hsound.render_eq style
  refine ⟨drawing, hbody, hrender, hchunks, hsound.exists_start style.color, ?_⟩
  intro item hm hinitial t ht _
  exact hsound.head_of_targeted hm hinitial ht

-- A model whose initial pseudostate is attached in one item and left in another.
def splitStart : List Item :=
  [{ name := Name.initial, attached := some true },
    { name := Name.initial, transitions := [{ next := some "A", event := some "e" }] },
    { name := "A"
      transitions := [{}, { next := some Name.final, event := some "e", guard := some "g", effect := some "f" }]
      behavior := { entry := some "x", exit := some "y" } },
    { transitions := [{ next := some "B" }] }]

theorem render_owes_splitStart :
    (Health.ofItems splitStart).firstViolation = none ∧
      ∃ drawing, (Diagram.ofItems .standard splitStart).body = .drawing drawing ∧
        drawing.chunks.map (List.map (Statement.render Style.standard.color)) =
          [[], ["[*] --> A\nnote on link #FFF8DC\n" ++ Statement.eventNote ++ "end note\n"],
            ["A --> [*] :e [g] / f\n", "A : entry / x\n", "A : exit / y\n"], []] := by
  refine ⟨by decide, ?_⟩
  obtain ⟨drawing, hbody, -, hchunks, -⟩ := render_owes_items .standard splitStart (by decide)
  exact ⟨drawing, hbody, hchunks.trans (by decide +kernel)⟩

end Statechart
