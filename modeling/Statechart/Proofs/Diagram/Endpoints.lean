import Statechart.Proofs.Diagram.Declarations

namespace Statechart

-- The names, as the model has them, that an edge is drawn between.
def Statement.ends : Statement → List String
  | .start _ target _ _ _ => [Name.initial, target]
  | .edge source _ target _ => [source, target]
  | .behavior _ _ _ _ => []

-- A name that stands for something in a drawing: a pseudostate, or a state that is declared.
def Drawing.Knows (d : Drawing) (name : String) : Prop :=
  Name.isReserved (declaredName name) = true ∨ declaredName name ∈ d.declared

namespace Item

theorem ends_behaviorStatements {item : Item} {statement : Statement} (hs : statement ∈ item.behaviorStatements) :
    statement.ends = [] := by
  obtain ⟨_, -, rfl⟩ := List.mem_map.mp hs
  rfl

-- Edges that are drawn for the targets of an item end in its name and in them.
theorem exists_ends_map_targeted (item : Item) (draw : Transition × String → Statement)
    (h : ∀ drawn, (draw drawn).ends = [item.name, drawn.2]) (name : String) :
    (∃ statement ∈ item.targeted.map draw, name ∈ statement.ends) ↔
      ∃ target ∈ item.targets, name = item.name ∨ name = target := by
  constructor
  · rintro ⟨statement, hs, hend⟩
    obtain ⟨drawn, hdrawn, rfl⟩ := List.mem_map.mp hs
    refine ⟨drawn.2, List.mem_map_of_mem hdrawn, ?_⟩
    simpa [h] using hend
  · rintro ⟨target, htarget, hend⟩
    obtain ⟨drawn, hdrawn, rfl⟩ := List.mem_map.mp htarget
    refine ⟨draw drawn, List.mem_map_of_mem hdrawn, ?_⟩
    simpa [h] using hend

-- The ends of what is drawn for an item are its own name and its targets.
theorem exists_ends_iff (item : Item) (h : item.isInitial = true → item.transitions.length ≤ 1) (name : String) :
    (∃ statement ∈ item.statements, name ∈ statement.ends) ↔
      item.name ≠ "" ∧ ∃ target ∈ item.targets, name = item.name ∨ name = target := by
  unfold statements
  by_cases hinitial : item.isInitial = true
  · have hname := item.isInitial_iff.mp hinitial
    have hne : item.name ≠ "" := by
      rw [hname]
      decide
    rw [if_pos hinitial, item.startStatements_eq (h hinitial), item.exists_ends_map_targeted _ ?_ name]
    · exact (and_iff_right hne).symm
    · intro drawn
      rw [hname]
      rfl
  · rw [if_neg hinitial]
    by_cases hname : item.name = ""
    · simp [hname]
    · have hedges := item.exists_ends_map_targeted
        (fun drawn => .edge item.name (.of item) drawn.2 drawn.1.label?) (fun _ => rfl) name
      rw [if_neg hname, and_iff_right hname, ← hedges]
      constructor
      · rintro ⟨statement, hs, hend⟩
        rcases List.mem_append.mp hs with hedge | hbehavior
        · exact ⟨statement, hedge, hend⟩
        · simp [ends_behaviorStatements hbehavior] at hend
      · rintro ⟨statement, hs, hend⟩
        exact ⟨statement, List.mem_append_left _ hs, hend⟩

theorem name_mem_writtenNames {items : List Item} {item : Item} (hm : item ∈ items) :
    item.name ∈ writtenNames items :=
  List.mem_append_left _ (List.mem_map.mpr ⟨item, hm, rfl⟩)

theorem target_mem_writtenNames {items : List Item} {item : Item} (hm : item ∈ items) {target : String}
    (ht : target ∈ item.targets) : target ∈ writtenNames items :=
  List.mem_append_right _ (List.mem_flatMap.mpr ⟨item, hm, ht⟩)

end Item

namespace Sound

variable {items : List Item}

theorem knows_iff (h : Sound items) {focus : Focus} {name : String} (hn : name ∈ writtenNames items) :
    (Drawing.ofItems items focus).Knows name ↔ ¬Name.IsBare name := by
  rw [Drawing.Knows, declaredName_of_isValid (h.isValid_of_written hn), ← Name.plain_eq_empty_iff]
  have hmem := h.declares.mem_iff (Name.plain name)
  by_cases hreserved : Name.isReserved (Name.plain name) = true
  · refine ⟨fun _ hempty => ?_, fun _ => .inl hreserved⟩
    rw [hempty] at hreserved
    exact absurd hreserved (by decide)
  · obtain ⟨hinitial, hfinal⟩ := (Name.isReserved_eq_false_iff _).mp (Bool.eq_false_iff.mpr hreserved)
    constructor
    · rintro (hr | hdeclared)
      · exact absurd hr hreserved
      · exact (hmem.mp hdeclared).1
    · intro hne
      exact .inr (hmem.mpr ⟨hne, hinitial, hfinal, name, hn, rfl⟩)

theorem exists_drawn_ends_iff (h : Sound items) {focus : Focus} (name : String) :
    (∃ statement ∈ (Drawing.ofItems items focus).chunks.flatten, name ∈ statement.ends) ↔
      ∃ item ∈ items, item.name ≠ "" ∧ ∃ target ∈ item.targets, name = item.name ∨ name = target := by
  constructor
  · rintro ⟨statement, hs, hend⟩
    obtain ⟨chunk, hchunk, hs⟩ := List.mem_flatten.mp hs
    obtain ⟨item, hm, rfl⟩ := List.mem_map.mp hchunk
    exact ⟨item, hm, (item.exists_ends_iff (h.single item hm) name).mp ⟨statement, hs, hend⟩⟩
  · rintro ⟨item, hm, hdrawn⟩
    obtain ⟨statement, hs, hend⟩ := (item.exists_ends_iff (h.single item hm) name).mpr hdrawn
    exact ⟨statement, List.mem_flatten.mpr ⟨_, List.mem_map.mpr ⟨item, hm, rfl⟩, hs⟩, hend⟩

theorem written_of_end (h : Sound items) {focus : Focus} {statement : Statement} {name : String}
    (hs : statement ∈ (Drawing.ofItems items focus).chunks.flatten) (hend : name ∈ statement.ends) :
    name ∈ writtenNames items := by
  obtain ⟨item, hm, -, target, ht, hname | hname⟩ := (h.exists_drawn_ends_iff name).mp ⟨statement, hs, hend⟩
  · rw [hname]
    exact Item.name_mem_writtenNames hm
  · rw [hname]
    exact Item.target_mem_writtenNames hm ht

end Sound

-- A drawing knows the ends of its edges but for those that are markers only, which includes the
-- empty one: nothing is declared for them, yet an edge is drawn all the same.
theorem render_knows_ends_iff (style : Style) (items : List Item)
    (h : (Health.ofItems items).firstViolation = none) :
    ∃ drawing, (Diagram.ofItems style items).body = .drawing drawing ∧
      (Diagram.ofItems style items).render =
        Diagram.header style.font ++
          (String.join (drawing.declared.map declaration) ++
            String.join (drawing.chunks.map (chunk style.color)) ++
            ((drawing.highlight.map fun h => h.render style.color ++ "\n").getD "")) ++ "@enduml" ∧
      (∀ statement ∈ drawing.chunks.flatten, ∀ name ∈ statement.ends,
        (drawing.Knows name ↔ ¬Name.IsBare name)) ∧
      ((∀ statement ∈ drawing.chunks.flatten, ∀ name ∈ statement.ends, drawing.Knows name) ↔
        ∀ item ∈ items, item.name ≠ "" → ∀ target ∈ item.targets,
          ¬Name.IsBare item.name ∧ ¬Name.IsBare target) := by
  have hsound := (Health.firstViolation_eq_none_iff items).mp h
  obtain ⟨drawing, hbody, rfl, hrender⟩ := Diagram.render_eq style items h
  have hknows : ∀ statement ∈ (Drawing.ofItems items (items.foldl Focus.observeIndex {})).chunks.flatten,
      ∀ name ∈ statement.ends, ((Drawing.ofItems items (items.foldl Focus.observeIndex {})).Knows name ↔
        ¬Name.IsBare name) := fun statement hs name hend =>
    hsound.knows_iff (hsound.written_of_end hs hend)
  refine ⟨_, hbody, hrender, hknows, ?_⟩
  constructor
  · intro hall item hm hne target ht
    have hends (name : String) (hname : name = item.name ∨ name = target) : ¬Name.IsBare name := by
      obtain ⟨statement, hs, hend⟩ := (hsound.exists_drawn_ends_iff name).mpr ⟨item, hm, hne, target, ht, hname⟩
      exact (hknows statement hs name hend).mp (hall statement hs name hend)
    exact ⟨hends _ (.inl rfl), hends _ (.inr rfl)⟩
  · intro hall statement hs name hend
    refine (hknows statement hs name hend).mpr ?_
    obtain ⟨item, hm, hne, target, ht, hname | hname⟩ :=
      (hsound.exists_drawn_ends_iff name).mp ⟨statement, hs, hend⟩
    · rw [hname]
      exact (hall item hm hne target ht).1
    · rw [hname]
      exact (hall item hm hne target ht).2

-- A model whose ends are all known, marked and reserved ones among them.
def namedEnds : List Item :=
  [{ name := Name.initial, attached := some true, transitions := [{ next := some "A#FF5555" }] },
    { name := "A", transitions := [{ next := some Name.final }, { next := some "B" }, {}] },
    { transitions := [{ next := some "" }] }]

theorem render_knows_namedEnds :
    (Health.ofItems namedEnds).firstViolation = none ∧
      ∃ drawing, (Diagram.ofItems .standard namedEnds).body = .drawing drawing ∧
        ∀ statement ∈ drawing.chunks.flatten, ∀ name ∈ statement.ends, drawing.Knows name := by
  refine ⟨by decide, ?_⟩
  obtain ⟨drawing, hbody, -, -, hall⟩ := render_knows_ends_iff .standard namedEnds (by decide)
  refine ⟨drawing, hbody, hall.mpr ?_⟩
  simp only [← Name.plain_eq_empty_iff]
  decide +kernel

-- An accepted model whose second edge leads to the empty name.
def emptyTarget : List Item :=
  [{ name := Name.initial, attached := some true, transitions := [{ next := some "A" }] },
    { name := "A", transitions := [{ next := some "" }] }]

theorem emptyTarget_end_unknown :
    (Health.ofItems emptyTarget).firstViolation = none ∧
      (Diagram.ofItems .standard emptyTarget).render =
        "@startuml\nskinparam defaultFontName \"Noto Sans JP\"\nstate A\n[*] --> A\nA --> \n@enduml" ∧
      ¬∀ drawing, (Diagram.ofItems .standard emptyTarget).body = .drawing drawing →
        ∀ statement ∈ drawing.chunks.flatten, ∀ name ∈ statement.ends, drawing.Knows name := by
  refine ⟨by decide, by decide +kernel, fun hall => ?_⟩
  have hknown := hall _ rfl (.edge "A" .ordinary "" none) (by decide +kernel) "" (by decide)
  revert hknown
  unfold Drawing.Knows
  decide +kernel

end Statechart
