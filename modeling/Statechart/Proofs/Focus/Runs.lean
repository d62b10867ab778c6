import Statechart.Diagram.Basic
import Statechart.Proofs.Focus.LastClick
import Statechart.Proofs.Health.Sound

namespace Statechart

namespace Focus

section Touches

variable {α : Type}

-- What happens to a field of a focus: an item is looked at, or the field is overwritten.
inductive Touch (α : Type) where
  | observe (item : Item)
  | set (value : Option α)

-- A field after it was touched. `find` is what there is to find at an item.
def Touch.apply (find : Item → Option α) (current : Option α) : Touch α → Option α
  | .observe item => (find item).or current
  | .set value => value

def Touch.written? (find : Item → Option α) : Touch α → Option (Option α)
  | .observe item => (find item).map some
  | .set value => some value

-- What a touch writes to its field. An item at which nothing is found writes nothing.
inductive Writes (found : Item → α → Prop) : Touch α → Option α → Prop
  | observe {item : Item} {a : α} (h : found item a) : Writes found (.observe item) (some a)
  | set (value : Option α) : Writes found (.set value) value

-- What touches leave of a field that was empty: what the last of them that writes has written.
def Leaves (found : Item → α → Prop) (touches : List (Touch α)) (value : Option α) : Prop :=
  (∃ touch, LastWith (fun touch => ∃ written, Writes found touch written) touches touch ∧
      Writes found touch value) ∨
    (∀ touch ∈ touches, ∀ written, ¬Writes found touch written) ∧ value = none

variable {find : Item → Option α} {found : Item → α → Prop}

theorem written?_eq_some_iff (h : ∀ item a, find item = some a ↔ found item a) (touch : Touch α) (value : Option α) :
    touch.written? find = some value ↔ Writes found touch value := by
  cases touch with
  | observe item =>
      rw [Touch.written?, Option.map_eq_some_iff]
      constructor
      · rintro ⟨a, ha, rfl⟩
        exact .observe ((h item a).mp ha)
      · rintro ⟨ha⟩
        exact ⟨_, (h item _).mpr ha, rfl⟩
  | set written =>
      constructor
      · rintro ⟨⟩
        exact .set _
      · rintro ⟨⟩
        rfl

theorem foldl_apply_eq_iff (h : ∀ item a, find item = some a ↔ found item a) (touches : List (Touch α))
    (value : Option α) : touches.foldl (Touch.apply find) none = value ↔ Leaves found touches value := by
  have hstep (current : Option α) (touch : Touch α) :
      some (touch.apply find current) = (touch.written? find).or (some current) := by
    cases touch with
    | observe item =>
        simp only [Touch.apply, Touch.written?]
        cases find item <;> rfl
    | set written => rfl
  have hlast := foldl_lastWrite hstep none touches
  rw [← Option.some_inj, hlast, Leaves]
  simp only [← written?_eq_some_iff h, ← findSome?_reverse_eq_some_iff, ← ne_eq, ← findSome?_reverse_eq_none_iff]
  cases touches.reverse.findSome? (Touch.written? find) <;> simp [eq_comm]

end Touches

-- A step touches one of the two fields.
inductive Step where
  | block (touch : Touch FocusedBlock)
  | target (touch : Touch String)

namespace Step

def apply (f : Focus) : Step → Focus
  | .block (.observe item) => f.observeBlock item
  | .block (.set value) => { f with block := value }
  | .target (.observe item) => f.observeIndex item
  | .target (.set value) => { f with target := value }

def block? : Step → Option (Touch FocusedBlock)
  | .block touch => some touch
  | .target _ => none

def target? : Step → Option (Touch String)
  | .block _ => none
  | .target touch => some touch

theorem block_apply (f : Focus) (step : Step) :
    (step.apply f).block = step.block?.elim f.block (Touch.apply blockOf? f.block) := by
  match step with
  | .block (.observe item) => exact block_observeBlock f item
  | .block (.set value) => rfl
  | .target (.observe item) => exact block_observeIndex f item
  | .target (.set value) => rfl

theorem target_apply (f : Focus) (step : Step) :
    (step.apply f).target = step.target?.elim f.target (Touch.apply clickedTarget? f.target) := by
  match step with
  | .block (.observe item) => exact target_observeBlock f item
  | .block (.set value) => rfl
  | .target (.observe item) => exact target_observeIndex f item
  | .target (.set value) => rfl

end Step

-- The focus that steps lead to, one after the other.
def run (steps : List Step) : Focus :=
  steps.foldl Step.apply {}

-- A field that a step changes at most by a touch of its own goes through the touches alone.
theorem view_run {α : Type} {view : Focus → Option α} {touch? : Step → Option (Touch α)} {find : Item → Option α}
    (h : ∀ f step, view (step.apply f) = (touch? step).elim (view f) (Touch.apply find (view f))) (steps : List Step) :
    view (run steps) = (steps.filterMap touch?).foldl (Touch.apply find) (view {}) := by
  have hfrom (f : Focus) :
      view (steps.foldl Step.apply f) = (steps.filterMap touch?).foldl (Touch.apply find) (view f) := by
    induction steps generalizing f with
    | nil => rfl
    | cons step rest ih =>
        rw [List.foldl_cons, ih, h, List.filterMap_cons]
        cases touch? step <;> rfl
  exact hfrom {}

theorem block_run (steps : List Step) :
    (run steps).block = (steps.filterMap Step.block?).foldl (Touch.apply blockOf?) none :=
  view_run Step.block_apply steps

theorem target_run (steps : List Step) :
    (run steps).target = (steps.filterMap Step.target?).foldl (Touch.apply clickedTarget?) none :=
  view_run Step.target_apply steps

-- One order of the steps that touch each field, each field's touches in the order given.
inductive Interleaves : List (Touch FocusedBlock) → List (Touch String) → List Step → Prop
  | nil : Interleaves [] [] []
  | block {blocks : List (Touch FocusedBlock)} {targets : List (Touch String)} {steps : List Step}
      (touch : Touch FocusedBlock) (h : Interleaves blocks targets steps) :
      Interleaves (touch :: blocks) targets (.block touch :: steps)
  | target {blocks : List (Touch FocusedBlock)} {targets : List (Touch String)} {steps : List Step}
      (touch : Touch String) (h : Interleaves blocks targets steps) :
      Interleaves blocks (touch :: targets) (.target touch :: steps)

theorem interleaves_iff (blocks : List (Touch FocusedBlock)) (targets : List (Touch String)) (steps : List Step) :
    Interleaves blocks targets steps ↔
      steps.filterMap Step.block? = blocks ∧ steps.filterMap Step.target? = targets := by
  constructor
  · intro h
    induction h with
    | nil => exact ⟨rfl, rfl⟩
    | block touch _ ih => exact ⟨congrArg (touch :: ·) ih.1, ih.2⟩
    | target touch _ ih => exact ⟨ih.1, congrArg (touch :: ·) ih.2⟩
  · rintro ⟨rfl, rfl⟩
    induction steps with
    | nil => exact .nil
    | cons step rest ih =>
        cases step with
        | block touch => exact .block touch ih
        | target touch => exact .target touch ih

theorem run_eq_of_interleaves {blocks : List (Touch FocusedBlock)} {targets : List (Touch String)}
    {steps others : List Step} (h : Interleaves blocks targets steps) (hothers : Interleaves blocks targets others) :
    run others = run steps := by
  obtain ⟨rfl, rfl⟩ := (interleaves_iff blocks targets steps).mp h
  obtain ⟨hblock, htarget⟩ := (interleaves_iff _ _ others).mp hothers
  have hsameBlock : (run others).block = (run steps).block := by rw [block_run, block_run, hblock]
  have hsameTarget : (run others).target = (run steps).target := by rw [target_run, target_run, htarget]
  exact congrArg₂ Focus.mk hsameBlock hsameTarget

theorem interleaves_apart (blocks : List (Touch FocusedBlock)) (targets : List (Touch String)) :
    Interleaves blocks targets (targets.map .target ++ blocks.map .block) := by
  induction targets with
  | nil =>
      induction blocks with
      | nil => exact .nil
      | cons touch rest ih => exact .block touch ih
  | cons touch rest ih => exact .target touch ih

-- The steps of a single pass that looks at each item for its block and for its target.
def onePass (items : List Item) : List Step :=
  items.flatMap fun item => [.block (.observe item), .target (.observe item)]

theorem interleaves_onePass (items : List Item) :
    Interleaves (items.map .observe) (items.map .observe) (onePass items) := by
  induction items with
  | nil => exact .nil
  | cons item rest ih => exact .block _ (.target _ ih)

-- A diagram looks at all items for their targets, and then at all of them for their blocks.
theorem run_eq_passes {items : List Item} {steps : List Step}
    (h : Interleaves (items.map .observe) (items.map .observe) steps) :
    run steps = items.foldl observeBlock (survey items).2 := by
  rw [← run_eq_of_interleaves h (interleaves_apart _ _), survey_eq, run, List.foldl_append, List.map_map,
    List.map_map, List.foldl_map, List.foldl_map]
  rfl

-- The two fields of a focus go each their own way: each ends with the last write to it, whatever is done
-- to the other in between. So only the order of the steps for one field counts, and one pass over a model
-- finds what the two passes of a diagram find.
theorem run_independent (steps : List Step) :
    (∀ value, (run steps).block = value ↔ Leaves Item.FocusesOn (steps.filterMap Step.block?) value) ∧
      (∀ value, (run steps).target = value ↔ Leaves Item.PointsTo (steps.filterMap Step.target?) value) ∧
      (∀ blocks targets others, Interleaves blocks targets steps → Interleaves blocks targets others →
        run others = run steps ∧ (run others).highlight? = (run steps).highlight?) ∧
      (∀ items, Interleaves (items.map .observe) (items.map .observe) steps →
        run steps = run (onePass items) ∧ run steps = items.foldl observeBlock (survey items).2 ∧
          (run steps).highlight? (activeState items) = (Drawing.ofItems items (survey items).2).highlight) := by
  refine ⟨fun value => ?block, fun value => ?target, fun blocks targets others h hothers => ?order,
    fun items hitems => ?passes⟩
  case block =>
    rw [block_run]
    exact foldl_apply_eq_iff blockOf?_eq_some_iff _ value
  case target =>
    rw [target_run]
    exact foldl_apply_eq_iff clickedTarget?_eq_some_iff _ value
  case order =>
    have hrun := run_eq_of_interleaves h hothers
    exact ⟨hrun, congrArg highlight? hrun⟩
  case passes =>
    have hpasses := run_eq_passes hitems
    exact ⟨run_eq_of_interleaves (interleaves_onePass items) hitems, hpasses,
      congrArg (·.highlight? (activeState items)) hpasses⟩

-- The first item is clicked on its transition; the click on the second has no such place, and that on the
-- third no block.
def clickedItems : List Item :=
  [{ name := "A"
     transitions := [{ next := some "B" }]
     click := some { kind := some (.block .changeState), number := some 0 } },
    { name := "B", transitions := [{}], click := some { kind := some (.block .stateAction), number := some 7 } },
    { name := "C", transitions := [{ next := some "A" }], click := some { number := some 0 } }]

theorem run_independent_clickedItems :
    let blocks := Touch.set none :: clickedItems.map .observe
    let targets := clickedItems.map .observe ++ [.set (some "D"), .observe clickedItems[0], .set none]
    let apart := targets.map Step.target ++ blocks.map .block
    let mixed := Step.block (.set none) :: onePass clickedItems ++
      [.target (.set (some "D")), .target (.observe clickedItems[0]), .target (.set none)]
    Interleaves blocks targets apart ∧ Interleaves blocks targets mixed ∧ run mixed = run apart ∧
      run apart = { block := some ⟨"B", .block .stateAction⟩ } ∧
      Interleaves (clickedItems.map .observe) (clickedItems.map .observe) (onePass clickedItems) ∧
      (run (onePass clickedItems)).target = some "B" ∧
      (run (onePass clickedItems)).highlight? (activeState clickedItems) =
        (Drawing.ofItems clickedItems (survey clickedItems).2).highlight := by
  intro blocks targets apart mixed
  have hapart : Interleaves blocks targets apart := interleaves_apart blocks targets
  have hmixed : Interleaves blocks targets mixed := (interleaves_iff _ _ _).mpr ⟨rfl, rfl⟩
  have hpass := interleaves_onePass clickedItems
  obtain ⟨-, -, hsame, -⟩ := run_independent apart
  obtain ⟨-, -, -, hdrawn⟩ := run_independent (onePass clickedItems)
  exact ⟨hapart, hmixed, (hsame blocks targets mixed hapart hmixed).1, by decide +kernel, hpass, by decide +kernel,
    (hdrawn clickedItems hpass).2.2⟩

end Focus

end Statechart
