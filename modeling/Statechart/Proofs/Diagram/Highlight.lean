import Statechart.Proofs.Diagram.Endpoints
import Statechart.Proofs.Focus.LastClick

namespace Statechart

-- What a highlight is about: the target that the last click on a transition points to. Without such
-- a click it is the item whose block has the focus.
def IsSubject (items : List Item) (owner : Item) (name : String) : Prop :=
  (∃ item, LastWith (fun item => ∃ target, item.PointsTo target) items item ∧ item.PointsTo name) ∨
    (∀ item ∈ items, ∀ target, ¬item.PointsTo target) ∧ name = owner.name

-- The first target of a model that carries the marker.
def IsActive (items : List Item) (name : String) : Prop :=
  ∃ before after, targets items = before ++ name :: after ∧ Name.marker.toList <:+: name.toList ∧
    ∀ other ∈ before, ¬Name.marker.toList <:+: other.toList

-- The line that styles a state for a block with the focus. The active state has a style already, to
-- which more is chained.
def styledLine? (color : String) (active : Bool) (name : String) (block : Block) : Option String :=
  let outline := "line:" ++ color ++ ";line.bold" ++
    if Name.placeholder.toList <:+: name.toList then ";text:red" else ""
  match block with
  | .changeState => some ("state " ++ name ++ (if active then ";" else " #") ++ outline)
  | .stateDefinition => some ("state " ++ name ++ (if active then ";" else " #") ++ "text:" ++ color)
  | .stateAction => some ("state " ++ name ++ (if active then " #FF5555;" else " #") ++ outline)
  | _ => none

-- The last item with a click of some kind says how to style, be its click on a transition or not.
def IsHighlightLine (color : String) (items : List Item) (line : String) : Prop :=
  ∃ owner block name active,
    LastWith (fun item => ∃ kind, item.ClickedAs kind) items owner ∧
      owner.ClickedAs (.block block) ∧ IsSubject items owner name ∧ name ≠ Name.final ∧
      (active = true ↔ IsActive items name) ∧ styledLine? color active name block = some line

theorem getD_target_ofItems_iff (items : List Item) (owner : Item) (name : String) :
    (Focus.ofItems items).target.getD owner.name = name ↔ IsSubject items owner name := by
  cases htarget : (Focus.ofItems items).target with
  | none =>
      have hnone := (Focus.target_ofItems_eq_none_iff items).mp htarget
      constructor
      · intro hname
        exact .inr ⟨hnone, hname.symm⟩
      · rintro (⟨item, hlast, hpoints⟩ | ⟨-, hname⟩)
        · exact absurd hpoints (hnone item hlast.mem name)
        · exact hname.symm
  | some target =>
      constructor
      · rintro rfl
        exact .inl ((Focus.target_ofItems_eq_some_iff items target).mp htarget)
      · rintro (hpoints | ⟨hnone, -⟩)
        · rw [(Focus.target_ofItems_eq_some_iff items name).mpr hpoints] at htarget
          exact (Option.some.inj htarget).symm
        · rw [(Focus.target_ofItems_eq_none_iff items).mpr hnone] at htarget
          simp at htarget

-- The name in a highlight is one that the model writes.
theorem subject_mem_writtenNames {items : List Item} {active : Option String} {h : Highlight}
    (hhighlight : (Focus.ofItems items).highlight? active = some h) : h.subject ∈ writtenNames items := by
  obtain ⟨block, hblock, hsubject, -⟩ := (Focus.highlight?_eq_some_iff _ active h).mp hhighlight
  rw [← hsubject]
  cases htarget : (Focus.ofItems items).target with
  | some target =>
      obtain ⟨item, hlast, hpoints⟩ := (Focus.target_ofItems_eq_some_iff items target).mp htarget
      exact Item.target_mem_writtenNames hlast.mem (Item.mem_targets_of_pointsTo hpoints)
  | none =>
      obtain ⟨owner, hlast, hname, -⟩ := (Focus.block_ofItems_eq_some_iff items block).mp hblock
      exact hname ▸ Item.name_mem_writtenNames hlast.mem

theorem styledLine?_eq (color : String) (active : Bool) (name : String) (block : Block) :
    styledLine? color active name block =
      (Template.ofClick? (.block block)).map fun template => Highlight.render color ⟨name, template, active⟩ := by
  cases block <;> cases active <;>
    simp [styledLine?, Template.ofClick?, ClickKind.block?, Highlight.render, Name.isUndefined, Text.mentions_iff,
      Name.marker, ← String.toList_inj]

theorem ofClick?_eq_some_iff (kind : ClickKind) (template : Template) :
    Template.ofClick? kind = some template ↔
      ∃ block, kind = .block block ∧ Template.ofClick? (.block block) = some template := by
  cases kind with
  | block block => simp
  | other name unknown => simp [Template.ofClick?, ClickKind.block?]

-- The highlight that two passes come to is the line that the last clicks ask for.
theorem highlight_eq_some_iff (color : String) (items : List Item) (line : String) :
    ((Focus.ofItems items).highlight? (activeState items)).map (Highlight.render color) = some line ↔
      IsHighlightLine color items line := by
  have hactive (active : Bool) (name : String) :
      (active = true ↔ IsActive items name) ↔ active = (activeState items == some name) := by
    have hfirst : IsActive items name ↔ (activeState items == some name) = true :=
      (activeState_eq_some_iff items name).symm.trans beq_iff_eq.symm
    rw [hfirst]
    exact Bool.eq_iff_iff.symm
  rw [Option.map_eq_some_iff]
  constructor
  · rintro ⟨h, hhighlight, rfl⟩
    obtain ⟨found, hfound, hsubject, htemplate, hfinal, hmarked⟩ := (Focus.highlight?_eq_some_iff _ _ h).mp hhighlight
    obtain ⟨owner, hlast, hname, hkind⟩ := (Focus.block_ofItems_eq_some_iff items found).mp hfound
    obtain ⟨block, hblock, htemplate⟩ := (ofClick?_eq_some_iff _ _).mp htemplate
    refine ⟨owner, block, h.subject, h.active, hlast, hblock ▸ hkind, ?_, hfinal, (hactive _ _).mpr hmarked, ?_⟩
    · exact (getD_target_ofItems_iff items owner h.subject).mp (hname ▸ hsubject)
    · rw [styledLine?_eq, htemplate]
      rfl
  · rintro ⟨owner, block, name, active, hlast, hkind, hsubject, hfinal, hmarked, hline⟩
    rw [styledLine?_eq, Option.map_eq_some_iff] at hline
    obtain ⟨template, htemplate, hline⟩ := hline
    refine ⟨⟨name, template, active⟩, (Focus.highlight?_eq_some_iff _ _ _).mpr ?_, hline⟩
    refine ⟨⟨owner.name, .block block⟩, ?_, ?_, htemplate, hfinal, (hactive _ _).mp hmarked⟩
    · exact (Focus.block_ofItems_eq_some_iff items _).mpr ⟨owner, hlast, rfl, hkind⟩
    · exact (getD_target_ofItems_iff items owner name).mpr hsubject

-- Whether a document has a highlight, and which, is told by the last clicks of its model alone. It
-- stands at the end; a model with a notice has none.
theorem render_highlights_lastClick (style : Style) (items : List Item) :
    match (Health.ofItems items).firstViolation with
    | some notice =>
        (Diagram.ofItems style items).render = Diagram.header style.font ++ notice.note ++ "@enduml"
    | none =>
        ∃ drawing line?, (Diagram.ofItems style items).body = .drawing drawing ∧
          (Diagram.ofItems style items).render =
            Diagram.header style.font ++ String.join (drawing.declared.map declaration) ++
              String.join (items.map fun item => String.join (item.owed style.color)) ++
              ((line?.map (· ++ "\n")).getD "") ++ "@enduml" ∧
          ∀ line, line? = some line ↔ IsHighlightLine style.color items line := by
  cases hviolation : (Health.ofItems items).firstViolation with
  | some notice => exact Diagram.render_eq_of_violation style hviolation
  | none =>
      have hsound := (Health.firstViolation_eq_none_iff items).mp hviolation
      obtain ⟨drawing, hbody, rfl, -, hrender⟩ := hsound.render_eq style
      refine ⟨_, ((Focus.ofItems items).highlight? (activeState items)).map (Highlight.render style.color), hbody, ?_,
        highlight_eq_some_iff style.color items⟩
      rw [hrender, Option.map_map]
      rfl

-- The click on a transition says what to style, the later one on an action block how.
example :
    (Diagram.ofItems .standard
      [{ name := Name.initial, attached := some true, transitions := [{ next := some "A" }] },
        { name := "A"
          transitions := [{}, { next := some "B#FF5555" }]
          click := some { kind := some (.block .switchIf), number := some 1 } },
        { click := some { kind := some (.block .stateAction), number := some 0 } }]).render =
      "@startuml\nskinparam defaultFontName \"Noto Sans JP\"\nstate A\nstate B\n[*] --> A\n" ++
        "A -[#orange]-> B#FF5555\nstate B#FF5555 #FF5555;line:orange;line.bold\n@enduml" := by
  decide +kernel

end Statechart
