import Statechart.Proofs.Diagram.Highlight

namespace Statechart

-- A name that the last clicks ask to be styled. Whose name it is has no part in that, but for the final
-- pseudostate's.
def IsStyled (items : List Item) (name : String) : Prop :=
  ∃ owner block, LastWith (fun item => ∃ kind, item.ClickedAs kind) items owner ∧
    owner.ClickedAs (.block block) ∧ block ∈ [.changeState, .stateDefinition, .stateAction] ∧
    IsSubject items owner name ∧ name ≠ Name.final

-- What a name stands for once its markers are gone: a state, unless nothing or a pseudostate is left.
def Name.IsState (name : String) : Prop :=
  ¬IsBare name ∧ plain name ≠ initial ∧ plain name ≠ final

theorem exists_ofClick?_iff (block : Block) :
    (∃ template, Template.ofClick? (.block block) = some template) ↔
      block ∈ [.changeState, .stateDefinition, .stateAction] := by
  cases block <;> simp [Template.ofClick?, ClickKind.block?]

theorem exists_highlight_iff (items : List Item) (name : String) :
    (∃ h, (Focus.ofItems items).highlight? (activeState items) = some h ∧ h.subject = name) ↔
      IsStyled items name := by
  constructor
  · rintro ⟨h, hhighlight, rfl⟩
    obtain ⟨found, hfound, hsubject, htemplate, hfinal, -⟩ := (Focus.highlight?_eq_some_iff _ _ h).mp hhighlight
    obtain ⟨owner, hlast, hname, hkind⟩ := (Focus.block_ofItems_eq_some_iff items found).mp hfound
    obtain ⟨block, hblock, htemplate⟩ := (ofClick?_eq_some_iff _ _).mp htemplate
    refine ⟨owner, block, hlast, hblock ▸ hkind, (exists_ofClick?_iff block).mp ⟨_, htemplate⟩, ?_, hfinal⟩
    exact (getD_target_ofItems_iff items owner h.subject).mp (hname ▸ hsubject)
  · rintro ⟨owner, block, hlast, hkind, hblock, hsubject, hfinal⟩
    obtain ⟨template, htemplate⟩ := (exists_ofClick?_iff block).mpr hblock
    refine ⟨⟨name, template, activeState items == some name⟩, (Focus.highlight?_eq_some_iff _ _ _).mpr ?_, rfl⟩
    refine ⟨⟨owner.name, .block block⟩, ?_, ?_, htemplate, hfinal, rfl⟩
    · exact (Focus.block_ofItems_eq_some_iff items _).mpr ⟨owner, hlast, rfl, hkind⟩
    · exact (getD_target_ofItems_iff items owner name).mpr hsubject

theorem Sound.mem_declared_iff {items : List Item} (h : Sound items) (focus : Focus) {name : String}
    (hn : name ∈ writtenNames items) :
    declaredName name ∈ (Drawing.ofItems items focus).declared ↔ Name.IsState name := by
  have hmem := h.declares.mem_iff (Name.plain name)
  rw [declaredName_of_isValid (h.isValid_of_written hn), Name.IsState, ← Name.plain_eq_empty_iff]
  constructor
  · intro hdeclared
    obtain ⟨hne, hinitial, hfinal, -⟩ := hmem.mp hdeclared
    exact ⟨hne, hinitial, hfinal⟩
  · rintro ⟨hne, hinitial, hfinal⟩
    exact hmem.mpr ⟨hne, hinitial, hfinal, name, hn, rfl⟩

-- A highlight begins with a name, and it is that of a declared state exactly if a state's name is left of it without
-- its markers. The final pseudostate has no highlight under its own name; under a marked one it has, and so have the
-- initial one and an item without a name.
theorem render_highlights_declared_iff (style : Style) (items : List Item)
    (h : (Health.ofItems items).firstViolation = none) :
    ∃ drawing, (Diagram.ofItems style items).body = .drawing drawing ∧
      (Diagram.ofItems style items).render =
        Diagram.header style.font ++
          (String.join (drawing.declared.map declaration) ++
            String.join (drawing.chunks.map (chunk style.color)) ++
            ((drawing.highlight.map fun h => h.render style.color ++ "\n").getD "")) ++ "@enduml" ∧
      (∀ highlight, drawing.highlight = some highlight →
        (∃ styling, highlight.render style.color = "state " ++ highlight.subject ++ styling) ∧
          highlight.subject ≠ Name.final ∧
          (declaredName highlight.subject ∈ drawing.declared ↔ Name.IsState highlight.subject)) ∧
      ((∀ highlight, drawing.highlight = some highlight → declaredName highlight.subject ∈ drawing.declared) ↔
        ∀ name, IsStyled items name → Name.IsState name) := by
  have hsound := (Health.firstViolation_eq_none_iff items).mp h
  obtain ⟨drawing, hbody, hdrawing, hrender⟩ := Diagram.render_eq style items h
  have hhighlight : drawing.highlight = (Focus.ofItems items).highlight? (activeState items) := by rw [hdrawing]; rfl
  have hdeclared (highlight : Highlight) (hsome : drawing.highlight = some highlight) :
      declaredName highlight.subject ∈ drawing.declared ↔ Name.IsState highlight.subject := by
    rw [hdrawing]
    exact hsound.mem_declared_iff _ (subject_mem_writtenNames (hhighlight ▸ hsome))
  refine ⟨drawing, hbody, hrender, fun highlight hsome => ⟨?_, ?_, hdeclared highlight hsome⟩, ?_⟩
  · exact ⟨_, rfl⟩
  · rw [hhighlight] at hsome
    obtain ⟨-, -, -, -, hfinal, -⟩ := (Focus.highlight?_eq_some_iff _ _ highlight).mp hsome
    exact hfinal
  · constructor
    · intro hall name hstyled
      obtain ⟨highlight, hsome, rfl⟩ := (exists_highlight_iff items name).mpr hstyled
      rw [← hhighlight] at hsome
      exact (hdeclared highlight hsome).mp (hall highlight hsome)
    · intro hall highlight hsome
      refine (hdeclared highlight hsome).mpr (hall _ ?_)
      exact (exists_highlight_iff items _).mp ⟨highlight, hhighlight ▸ hsome, rfl⟩

-- A model whose highlight is on the marked target of a later click than that on the block.
def clickedTarget : List Item :=
  [{ name := Name.initial, attached := some true, transitions := [{ next := some "A" }] },
    { name := "A"
      transitions := [{}, { next := some "B#FF5555" }]
      click := some { kind := some (.block .stateAction), number := some 1 } }]

theorem render_highlights_declared_clickedTarget :
    (Health.ofItems clickedTarget).firstViolation = none ∧
      ∃ drawing highlight, (Diagram.ofItems .standard clickedTarget).body = .drawing drawing ∧
        drawing.highlight = some highlight ∧ highlight.subject = "B#FF5555" ∧
        declaredName highlight.subject ∈ drawing.declared := by
  refine ⟨by decide, ?_⟩
  obtain ⟨drawing, hbody, -, hdeclared, -⟩ := render_highlights_declared_iff .standard clickedTarget (by decide)
  obtain rfl : .ofItems clickedTarget (clickedTarget.foldl Focus.observeIndex {}) = drawing :=
    Body.drawing.inj hbody
  have hhighlight : (Drawing.ofItems clickedTarget (clickedTarget.foldl Focus.observeIndex {})).highlight =
      some ⟨"B#FF5555", .action, true⟩ := by decide +kernel
  refine ⟨_, _, hbody, hhighlight, rfl, (hdeclared _ hhighlight).2.2.mpr ?_⟩
  rw [Name.IsState, ← Name.plain_eq_empty_iff]
  decide

-- An accepted model that has come to its end, with the focus on the edge that led there.
def focusedEnd : List Item :=
  [{ name := Name.initial, attached := some true, transitions := [{ next := some "A" }] },
    { name := "A"
      transitions := [{ next := some "終了状態#FF5555" }]
      click := some { kind := some (.block .changeState), number := some 0 } }]

theorem focusedEnd_highlight_undeclared :
    (Health.ofItems focusedEnd).firstViolation = none ∧
      (Diagram.ofItems .standard focusedEnd).render =
        "@startuml\nskinparam defaultFontName \"Noto Sans JP\"\nstate A\n[*] --> A\n" ++
          "A --> 終了状態#FF5555\nstate 終了状態#FF5555;line:orange;line.bold\n@enduml" ∧
      ¬∀ drawing, (Diagram.ofItems .standard focusedEnd).body = .drawing drawing →
        ∀ highlight, drawing.highlight = some highlight → declaredName highlight.subject ∈ drawing.declared := by
  refine ⟨by decide, by decide +kernel, fun hall => ?_⟩
  have hdeclared := hall _ rfl ⟨"終了状態#FF5555", .target, true⟩ (by decide +kernel)
  revert hdeclared
  decide +kernel

-- With the focus on it, the initial pseudostate stands in the document under its name.
example :
    (Diagram.ofItems .standard
      [{ name := Name.initial
         attached := some true
         transitions := [{ next := some "A" }]
         click := some { kind := some (.block .stateDefinition) } }]).render =
      "@startuml\nskinparam defaultFontName \"Noto Sans JP\"\nstate A\n[*] --> A\n" ++
        "state 初期状態 #text:orange\n@enduml" := by
  decide +kernel

end Statechart
