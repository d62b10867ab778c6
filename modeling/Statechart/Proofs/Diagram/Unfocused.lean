import Statechart.Proofs.Diagram.Coverage
import Statechart.Proofs.Focus.LastClick

namespace Statechart

-- An item without the editor's click and without the mark of the state it is at.
def Item.unfocused (item : Item) : Item :=
  { item with click := none, current := false }

-- The part of a statement that can show a click: the arrow of an edge, or the name of a rule.
inductive Accent where
  | arrow
  | label (rule : Rule)

def Accent.plain : Accent → String
  | .arrow => "-->"
  | .label rule => rule.label

def Accent.colored (color : String) : Accent → String
  | .arrow => "-[#" ++ color ++ "]->"
  | .label rule => "<color:" ++ color ++ ">" ++ rule.label ++ "<color:black>"

-- The text of a statement around its accent.
structure AccentedText where
  before : String
  accent : Accent
  after : String

def AccentedText.render (write : Accent → String) (t : AccentedText) : String :=
  t.before ++ write t.accent ++ t.after

namespace Statement

def accented : Statement → AccentedText
  | .start _ target effect event guard =>
      { before := "[*] "
        accent := .arrow
        after := " " ++ Name.token target ++ ((effect.map fun e => " : / " ++ e).getD "") ++ "\n" ++
          startNote event guard }
  | .edge source _ target label =>
      { before := source ++ " "
        accent := .arrow
        after := " " ++ Name.token target ++ ((label.map fun l => " :" ++ l).getD "") ++ "\n" }
  | .behavior owner rule _ text =>
      { before := owner ++ " : "
        accent := .label rule
        after := " / " ++ text ++ "\n" }

def isColored : Statement → Bool
  | .start arrow _ _ _ _ | .edge _ arrow _ _ => arrow = .colored
  | .behavior _ _ colored _ => colored

theorem render_eq_accented (color : String) (s : Statement) :
    s.render color = s.accented.render fun accent => if s.isColored then accent.colored color else accent.plain := by
  cases s with
  | start arrow target effect event guard =>
      cases arrow <;> simp [render, accented, isColored, AccentedText.render, Arrow.render, Accent.plain,
        Accent.colored, ← String.toList_inj]
  | edge source arrow target label =>
      cases arrow <;> simp [render, accented, isColored, AccentedText.render, Arrow.render, Accent.plain,
        Accent.colored, ← String.toList_inj]
  | behavior owner rule colored text =>
      cases colored <;> simp [render, accented, isColored, AccentedText.render, ruleLabel, Accent.plain,
        Accent.colored, ← String.toList_inj]

end Statement

namespace Item

-- The accents that an item's click colours: its arrows when it is on a branch, and the rule it edits.
def colors (item : Item) : Accent → Prop
  | .arrow => item.ClickedAs (.block .switchIf) ∨ item.ClickedAs (.block .switchElseIf)
  | .label rule => ∃ kind, item.ClickedAs kind ∧ kind.rule? = some rule

theorem bind_rule?_eq_some_iff (item : Item) (rule : Rule) :
    item.clickKind?.bind ClickKind.rule? = some rule ↔ item.colors (.label rule) := by
  simp only [Option.bind_eq_some_iff, clickKind?_eq_some_iff, colors]

instance (item : Item) (kind : ClickKind) : Decidable (item.ClickedAs kind) :=
  decidable_of_iff _ (item.clickKind?_eq_some_iff kind)

instance (item : Item) : DecidablePred item.colors
  | .arrow => inferInstanceAs (Decidable (_ ∨ _))
  | .label rule => decidable_of_iff _ (item.bind_rule?_eq_some_iff rule)

def accent (color : String) (item : Item) (a : Accent) : String :=
  if item.colors a then a.colored color else a.plain

theorem colored_arrow_iff (item : Item) : Arrow.of item = .colored ↔ item.colors .arrow := by
  simp only [Arrow.of, colors, ← clickKind?_eq_some_iff]
  cases item.clickKind? with
  | none => simp
  | some kind =>
      cases kind with
      | block block => cases block <;> simp [ClickKind.isBranch, ClickKind.block?]
      | other name unknown => simp [ClickKind.isBranch, ClickKind.block?]

theorem isColored_iff {item : Item} {s : Statement} (hs : s ∈ item.statements) :
    s.isColored = true ↔ item.colors s.accented.accent := by
  have harrow : decide (Arrow.of item = .colored) = true ↔ item.colors .arrow := by
    rw [decide_eq_true_iff, colored_arrow_iff]
  rcases mem_statements hs with ⟨-, t, target, -, rfl⟩ | ⟨-, -, ⟨t, target, -, rfl⟩ | ⟨rule, text, -, rfl⟩⟩
  · exact harrow
  · exact harrow
  · exact beq_iff_eq.trans (item.bind_rule?_eq_some_iff rule)

-- Nothing of a statement but its accent tells the click of its item.
theorem accented_unfocused (item : Item) :
    item.unfocused.statements.map Statement.accented = item.statements.map Statement.accented := by
  have hstart : item.unfocused.startStatements.map Statement.accented =
      item.startStatements.map Statement.accented := by
    have htransitions : item.unfocused.transitions = item.transitions := rfl
    unfold startStatements
    rw [htransitions]
    cases item.transitions with
    | nil => rfl
    | cons t rest => cases hnext : t.next <;> simp [hnext, Statement.accented]
  have hedge : item.unfocused.edgeStatements.map Statement.accented =
      item.edgeStatements.map Statement.accented := by
    unfold edgeStatements
    rw [List.map_map, List.map_map]
    rfl
  have hbehavior : item.unfocused.behaviorStatements.map Statement.accented =
      item.behaviorStatements.map Statement.accented := by
    unfold behaviorStatements
    rw [List.map_map, List.map_map]
    rfl
  have hinitial : item.unfocused.isInitial = item.isInitial := rfl
  have hname : item.unfocused.name = item.name := rfl
  unfold statements
  rw [hinitial, hname]
  split
  · exact hstart
  split
  · rfl
  · rw [List.map_append, List.map_append, hedge, hbehavior]

theorem render_eq_accented (color : String) (item : Item) :
    item.statements.map (Statement.render color) =
      item.unfocused.statements.map fun s => s.accented.render (item.accent color) := by
  -- what is coloured is told by the item, so the accented text is all that is kept of a statement
  have hrender : item.statements.map (Statement.render color) =
      (item.statements.map Statement.accented).map (AccentedText.render (item.accent color)) := by
    rw [List.map_map]
    refine List.map_congr_left fun s hs => ?_
    rw [Statement.render_eq_accented]
    simp only [Function.comp_apply, AccentedText.render, accent, isColored_iff hs]
  rw [hrender, ← accented_unfocused, List.map_map]
  rfl

theorem accent_of_unclicked {item : Item} (h : ∀ kind, ¬item.ClickedAs kind) (color : String) :
    item.accent color = Accent.plain := by
  funext a
  have hcolors : ¬item.colors a := by cases a <;> simp [colors, h]
  rw [accent, if_neg hcolors]

end Item

theorem Health.ofItems_unfocused (items : List Item) : ofItems (items.map Item.unfocused) = ofItems items := by
  rw [ofItems, List.foldl_map]
  rfl

theorem states_unfocused (items : List Item) : states (items.map Item.unfocused) = states items := by
  simp only [states, targets, List.map_map, List.flatMap_map]
  rfl

theorem highlight?_of_unclicked {items : List Item} (h : ∀ item ∈ items, ∀ kind, ¬item.ClickedAs kind)
    (active : Option String) : (Focus.ofItems items).highlight? active = none := by
  rw [Option.eq_none_iff_forall_ne_some]
  intro highlight hsome
  obtain ⟨block, hblock, -⟩ := (Focus.highlight?_eq_some_iff _ active highlight).mp hsome
  obtain ⟨item, hlast, -, hkind⟩ := (Focus.block_ofItems_eq_some_iff items block).mp hblock
  exact h item hlast.mem _ hkind

-- The document of a sound model around its accents, with at most one highlight at the end.
def accentedDocument (font : String) (items : List Item) (write : Item → Accent → String)
    (highlight : Option String) : String :=
  Diagram.header font ++ String.join (((states items).filter (!Name.isReserved ·)).map declaration) ++
    String.join (items.map fun item =>
      String.join (item.unfocused.statements.map fun s => s.accented.render (write item))) ++
    ((highlight.map (· ++ "\n")).getD "") ++ "@enduml"

theorem accentedDocument_unfocused (font : String) (items : List Item) (write : Item → Accent → String)
    (highlight : Option String) :
    accentedDocument font (items.map Item.unfocused) write highlight =
      accentedDocument font items (fun item => write item.unfocused) highlight := by
  simp only [accentedDocument, states_unfocused, List.map_map]
  rfl

theorem accentedDocument_congr (font : String) {items : List Item} {write other : Item → Accent → String}
    (h : ∀ item ∈ items, write item = other item) (highlight : Option String) :
    accentedDocument font items write highlight = accentedDocument font items other highlight := by
  have hchunks : (items.map fun item =>
      String.join (item.unfocused.statements.map fun s => s.accented.render (write item))) =
      items.map fun item => String.join (item.unfocused.statements.map fun s => s.accented.render (other item)) :=
    List.map_congr_left fun item hm => by rw [h item hm]
  rw [accentedDocument, accentedDocument, hchunks]

namespace Diagram

theorem render_eq_accented (style : Style) {items : List Item}
    (h : (Health.ofItems items).firstViolation = none) :
    (ofItems style items).render =
      accentedDocument style.font items (fun item => item.accent style.color)
        (((Focus.ofItems items).highlight? (activeState items)).map (Highlight.render style.color)) := by
  obtain ⟨drawing, -, rfl, hrender⟩ := render_eq style items h
  have hchunks : (Drawing.ofItems items (items.foldl Focus.observeIndex {})).chunks.map (chunk style.color) =
      items.map fun item =>
        String.join (item.unfocused.statements.map fun s => s.accented.render (item.accent style.color)) := by
    rw [Drawing.ofItems, List.map_map]
    exact List.map_congr_left fun item _ => congrArg String.join (item.render_eq_accented style.color)
  rw [hrender, hchunks, accentedDocument, Option.map_map]
  simp only [String.append_assoc]
  rfl

-- Without clicks there is neither colour nor highlight.
theorem render_eq_plain (style : Style) {items : List Item} (h : (Health.ofItems items).firstViolation = none)
    (hclick : ∀ item ∈ items, ∀ kind, ¬item.ClickedAs kind) :
    (ofItems style items).render = accentedDocument style.font items (fun _ => Accent.plain) none := by
  rw [render_eq_accented style h, highlight?_of_unclicked hclick]
  exact accentedDocument_congr style.font (fun item hm => Item.accent_of_unclicked (hclick item hm) style.color) none

theorem render_eq_of_unclicked {style other : Style} (hfont : other.font = style.font) {items : List Item}
    (hclick : ∀ item ∈ items, ∀ kind, ¬item.ClickedAs kind) :
    (ofItems other items).render = (ofItems style items).render := by
  cases hviolation : (Health.ofItems items).firstViolation with
  | some notice => rw [render_eq_of_violation other hviolation, render_eq_of_violation style hviolation, hfont]
  | none => rw [render_eq_plain other hviolation hclick, render_eq_plain style hviolation hclick, hfont]

end Diagram

-- The editor's focus changes nothing of a document but the colour of arrows and rules, and adds at
-- most one line at its end.
theorem render_unfocused (style : Style) (items : List Item) :
    let focused := Diagram.ofItems style items
    let erased := Diagram.ofItems style (items.map Item.unfocused)
    erased.notice? = focused.notice? ∧
      (∀ notice, focused.notice? = some notice → erased.render = focused.render) ∧
      (focused.notice? = none →
        erased.render = accentedDocument style.font items (fun _ => Accent.plain) none ∧
        ∃ highlight : Option Highlight, focused.render =
          accentedDocument style.font items (fun item => item.accent style.color)
            (highlight.map (Highlight.render style.color))) ∧
      ((∀ item ∈ items, ∀ kind, ¬item.ClickedAs kind) →
        ∀ other : Style, other.font = style.font → (Diagram.ofItems other items).render = focused.render) := by
  intro focused erased
  have hhealth := Health.ofItems_unfocused items
  have hfocused : focused.notice? = _ := Diagram.notice?_ofItems style items
  have herased : erased.notice? = _ := Diagram.notice?_ofItems style (items.map Item.unfocused)
  have hunclicked : ∀ item ∈ items.map Item.unfocused, ∀ kind, ¬item.ClickedAs kind := by
    intro item hm kind
    obtain ⟨clicked, -, rfl⟩ := List.mem_map.mp hm
    simp [Item.ClickedAs, Item.unfocused]
  refine ⟨?_, ?_, ?_, ?_⟩
  · rw [hfocused, herased, hhealth]
  · intro notice hnotice
    rw [hfocused] at hnotice
    rw [Diagram.render_eq_of_violation style hnotice, Diagram.render_eq_of_violation style (hhealth ▸ hnotice)]
  · intro hnone
    rw [hfocused] at hnone
    refine ⟨?_, _, Diagram.render_eq_accented style hnone⟩
    have hrender := Diagram.render_eq_plain style (hhealth ▸ hnone) hunclicked
    rwa [accentedDocument_unfocused] at hrender
  · intro hclick other hfont
    exact Diagram.render_eq_of_unclicked hfont hclick

-- One click colours an arrow, one a rule, and the last one asks for a highlight. None of that is left without them.
example :
    let items : List Item :=
      [{ name := Name.initial, attached := some true, transitions := [{ next := some "A" }] },
        { name := "A", transitions := [{ next := some "B" }], click := some { kind := some (.block .switchIf) } },
        { name := "B", behavior := { entry := some "x" }, click := some { kind := some (.block .entry) } },
        { name := "A", click := some { kind := some (.block .stateAction) } }]
    let before := "@startuml\nskinparam defaultFontName \"Noto Sans JP\"\nstate A\nstate B\n[*] --> A\n"
    (Diagram.ofItems .standard items).render =
        before ++ "A -[#orange]-> B\nB : <color:orange>entry<color:black> / x\n" ++
          "state A #line:orange;line.bold\n@enduml" ∧
      (Diagram.ofItems .standard (items.map Item.unfocused)).render =
        before ++ "A --> B\nB : entry / x\n@enduml" := by
  decide +kernel

end Statechart
