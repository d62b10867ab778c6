import Statechart.Proofs.Diagram.Coverage
import Statechart.Proofs.Focus.LastClick
import Statechart.Proofs.Name.Markers

namespace Statechart

-- A change of names that shows in nothing but their markers: what is left of a name without them
-- stays, and so does what it stands for.
structure Cosmetic (f : String → String) : Prop where
  plain (name : String) : Name.plain (f name) = Name.plain name
  initial_iff (name : String) : f name = Name.initial ↔ name = Name.initial
  final_iff (name : String) : f name = Name.final ↔ name = Name.final
  empty_iff (name : String) : f name = "" ↔ name = ""

namespace Cosmetic

variable {f : String → String}

theorem isValid (h : Cosmetic f) (name : String) : Name.isValid (f name) = Name.isValid name := by
  rw [Name.isValid_eq_all_plain, h.plain, ← Name.isValid_eq_all_plain]

theorem declaredName (h : Cosmetic f) (name : String) :
    Statechart.declaredName (f name) = Statechart.declaredName name := by
  rw [Statechart.declaredName, h.plain, ← Statechart.declaredName]

end Cosmetic

def Transition.rename (f : String → String) (t : Transition) : Transition :=
  { t with next := t.next.map f }

namespace Item

-- An item that goes, and leads, by other names.
def rename (f : String → String) (item : Item) : Item :=
  { item with name := f item.name, transitions := item.transitions.map (Transition.rename f) }

theorem targeted_rename (f : String → String) (item : Item) :
    (item.rename f).targeted = item.targeted.map fun (t, target) => (t.rename f, f target) := by
  rw [targeted, targeted, rename, List.filterMap_map, List.map_filterMap]
  congr 1
  funext t
  cases hnext : t.next <;> simp [Transition.rename, hnext]

theorem targets_rename (f : String → String) (item : Item) : (item.rename f).targets = item.targets.map f := by
  rw [targets, targeted_rename, targets, List.map_map, List.map_map]
  rfl

theorem isInitial_rename {f : String → String} (h : Cosmetic f) (item : Item) :
    (item.rename f).isInitial = item.isInitial := by
  rw [Bool.eq_iff_iff, isInitial_iff, isInitial_iff]
  exact h.initial_iff item.name

end Item

theorem targets_rename (f : String → String) (items : List Item) :
    targets (items.map (Item.rename f)) = (targets items).map f := by
  rw [targets, List.flatMap_map, targets, List.map_flatMap]
  exact List.flatMap_congr fun item _ => item.targets_rename f

namespace Health

theorem observe_rename {f : String → String} (h : Cosmetic f) (health : Health) (item : Item) :
    health.observe (item.rename f) = health.observe item := by
  have hname : Name.isValid (item.rename f).name = Name.isValid item.name := h.isValid item.name
  have htargets : (item.targets.map f).all Name.isValid = item.targets.all Name.isValid := by
    rw [List.all_map]
    exact congrArg _ (funext h.isValid)
  have hlength : (item.rename f).transitions.length = item.transitions.length := List.length_map _
  have hattached : (item.rename f).attached = item.attached := rfl
  have hduplicate : (item.rename f).isDuplicate = item.isDuplicate := rfl
  rw [observe, item.isInitial_rename h, item.targets_rename, hname, htargets, hlength, hattached, hduplicate,
    List.isEmpty_map, observe]

theorem ofItems_rename {f : String → String} (h : Cosmetic f) (items : List Item) :
    ofItems (items.map (Item.rename f)) = ofItems items := by
  simp only [ofItems, List.foldl_map, observe_rename h]

end Health

theorem states_rename {f : String → String} (h : Cosmetic f) (items : List Item) :
    states (items.map (Item.rename f)) = states items := by
  have hwritten : (items.map (Item.rename f)).map Item.name ++ targets (items.map (Item.rename f)) =
      (items.map Item.name ++ targets items).map f := by
    rw [targets_rename, List.map_append, List.map_map, List.map_map]
    rfl
  rw [states, hwritten, List.map_map, states]
  exact congrArg (fun clean => ((List.map clean _).filter (· != "")).eraseDups) (funext h.declaredName)

-- The same said about other names.
def Statement.rename (f : String → String) : Statement → Statement
  | .start arrow target effect event guard => .start arrow (f target) effect event guard
  | .edge source arrow target label => .edge (f source) arrow (f target) label
  | .behavior owner rule colored text => .behavior (f owner) rule colored text

namespace Item

theorem startStatements_rename (f : String → String) (item : Item) :
    (item.rename f).startStatements = item.startStatements.map (Statement.rename f) := by
  have htransitions : (item.rename f).transitions = item.transitions.map (Transition.rename f) := rfl
  have harrow : Arrow.of (item.rename f) = Arrow.of item := rfl
  rw [startStatements, startStatements, htransitions, harrow]
  cases item.transitions with
  | nil => rfl
  | cons t rest =>
      cases hnext : t.next with
      | none => simp [Transition.rename, hnext]
      | some next => simp [Transition.rename, hnext, Statement.rename]

theorem edgeStatements_rename (f : String → String) (item : Item) :
    (item.rename f).edgeStatements = item.edgeStatements.map (Statement.rename f) := by
  rw [edgeStatements, targeted_rename, edgeStatements, List.map_map, List.map_map]
  rfl

theorem behaviorStatements_rename (f : String → String) (item : Item) :
    (item.rename f).behaviorStatements = item.behaviorStatements.map (Statement.rename f) := by
  rw [behaviorStatements, behaviorStatements, List.map_map]
  rfl

theorem statements_rename {f : String → String} (h : Cosmetic f) (item : Item) :
    (item.rename f).statements = item.statements.map (Statement.rename f) := by
  have hempty : (item.rename f).name = "" ↔ item.name = "" := h.empty_iff item.name
  rw [statements, statements, item.isInitial_rename h]
  by_cases hinitial : item.isInitial = true
  · rw [if_pos hinitial, if_pos hinitial, startStatements_rename]
  rw [if_neg hinitial, if_neg hinitial]
  by_cases hname : item.name = ""
  · rw [if_pos (hempty.mpr hname), if_pos hname, List.map_nil]
  · rw [if_neg (mt hempty.mp hname), if_neg hname, edgeStatements_rename, behaviorStatements_rename, List.map_append]

end Item

namespace Focus

-- The same focus by other names.
def rename (f : String → String) (focus : Focus) : Focus where
  block := focus.block.map fun block => { block with owner := f block.owner }
  target := focus.target.map f

theorem clickedTarget?_rename (f : String → String) (item : Item) :
    clickedTarget? (item.rename f) = (clickedTarget? item).map f := by
  have hclick : (item.rename f).click = item.click := rfl
  have htransitions : (item.rename f).transitions = item.transitions.map (Transition.rename f) := rfl
  simp only [clickedTarget?, hclick, htransitions, List.getElem?_map, Option.bind_eq_bind, Option.map_bind,
    Option.bind_map, Function.comp_def]
  rfl

theorem observeBlock_rename (f : String → String) (focus : Focus) (item : Item) :
    (focus.rename f).observeBlock (item.rename f) = (focus.observeBlock item).rename f := by
  have hkind : (item.rename f).clickKind? = item.clickKind? := rfl
  rw [observeBlock, observeBlock, hkind]
  cases item.clickKind? <;> rfl

theorem observeIndex_rename (f : String → String) (focus : Focus) (item : Item) :
    (focus.rename f).observeIndex (item.rename f) = (focus.observeIndex item).rename f := by
  rw [observeIndex, observeIndex, clickedTarget?_rename]
  cases clickedTarget? item <;> rfl

-- Neither pass over a model looks at the names it takes along.
theorem ofItems_rename (f : String → String) (items : List Item) :
    ofItems (items.map (Item.rename f)) = (ofItems items).rename f := by
  have hempty : ({} : Focus).rename f = {} := rfl
  have hindexed : (items.map (Item.rename f)).foldl observeIndex {} = (items.foldl observeIndex {}).rename f := by
    conv_lhs => rw [← hempty, List.foldl_map]
    exact List.foldl_hom (rename f) fun focus item => observeIndex_rename f focus item
  rw [ofItems, hindexed, List.foldl_map]
  exact List.foldl_hom (rename f) fun focus item => observeBlock_rename f focus item

-- Under other names the same state is styled in the same way, apart from its being the active one.
theorem highlight?_rename {f : String → String} (h : Cosmetic f) (focus : Focus) (active renamedActive : Option String) :
    (focus.rename f).highlight? renamedActive =
      (focus.highlight? active).map fun highlight =>
        ⟨f highlight.subject, highlight.template, renamedActive == some (f highlight.subject)⟩ := by
  have hsubject : (focus.rename f).subject? = focus.subject?.map f := by
    rcases focus with ⟨_ | block, _ | target⟩ <;> rfl
  have htemplate : (focus.rename f).template? = focus.template? := by
    rcases focus with ⟨_ | block, target⟩ <;> rfl
  rw [highlight?, highlight?, hsubject, htemplate]
  cases focus.subject? with
  | none => rfl
  | some subject =>
      cases focus.template? with
      | none => rfl
      | some template =>
          by_cases hfinal : subject = Name.final
          · simp [hfinal, (h.final_iff _).mpr rfl]
          · simp [hfinal, mt (h.final_iff subject).mp hfinal]

end Focus

end Statechart
