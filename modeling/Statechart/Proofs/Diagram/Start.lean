import Statechart.Proofs.Diagram.Coverage

namespace Statechart

-- An edge that leaves the initial pseudostate.
def Statement.isStart : Statement → Bool
  | .start _ _ _ _ _ => true
  | .edge _ _ _ _ | .behavior _ _ _ _ => false

-- The initial pseudostate stands in a model once, is attached there, and has one transition, which
-- leads somewhere.
def SingleStart (items : List Item) : Prop :=
  ∃ item t target, items.filter (·.name = Name.initial) = [item] ∧ item.attached = some true ∧
    item.transitions = [t] ∧ t.next = some target

namespace Item

-- An initial item from which an edge is drawn.
def leaves (item : Item) : Bool :=
  item.isInitial && !item.targets.isEmpty

theorem exists_transition_of_leaves {item : Item} (hlength : item.transitions.length ≤ 1)
    (htargets : item.targets ≠ []) : ∃ t target, item.transitions = [t] ∧ t.next = some target := by
  cases ht : item.transitions with
  | nil => simp [targets, targeted, ht] at htargets
  | cons t rest =>
      have hrest : rest = [] := by simpa [ht] using hlength
      subst hrest
      cases hnext : t.next with
      | none => simp [targets, targeted, ht, hnext] at htargets
      | some target => exact ⟨t, target, rfl, hnext⟩

theorem countP_isStart (item : Item) (h : item.isInitial = true → item.transitions.length ≤ 1) :
    item.statements.countP Statement.isStart = if item.leaves then 1 else 0 := by
  unfold statements leaves
  by_cases hinitial : item.isInitial = true
  · rw [if_pos hinitial, hinitial, Bool.true_and]
    by_cases htargets : item.targets = []
    · have htargeted : item.targeted = [] := List.map_eq_nil_iff.mp htargets
      simp [item.startStatements_eq (h hinitial), htargets, htargeted]
    · obtain ⟨t, target, ht, hnext⟩ := exists_transition_of_leaves (h hinitial) htargets
      simp [startStatements, targets, targeted, ht, hnext, Statement.isStart]
  · rw [if_neg hinitial, Bool.eq_false_iff.mpr hinitial, Bool.false_and]
    by_cases hname : item.name = ""
    · simp [hname]
    · have hedge : item.edgeStatements.countP Statement.isStart = 0 := by
        simp [edgeStatements, List.countP_eq_zero, Statement.isStart]
      have hbehavior : item.behaviorStatements.countP Statement.isStart = 0 := by
        simp [behaviorStatements, List.countP_eq_zero, Statement.isStart]
      rw [if_neg hname, List.countP_append, hedge, hbehavior]
      rfl

end Item

namespace Sound

variable {items : List Item}

-- One edge leaves the initial pseudostate for each initial item that has a target.
theorem countP_isStart (h : Sound items) (focus : Focus) :
    (Drawing.ofItems items focus).chunks.flatten.countP Statement.isStart = items.countP Item.leaves := by
  have hcount : ∀ models : List Item, (∀ item ∈ models, item.isInitial = true → item.transitions.length ≤ 1) →
      (models.map Item.statements).flatten.countP Statement.isStart = models.countP Item.leaves := by
    intro models hsingle
    induction models with
    | nil => rfl
    | cons item rest ih =>
        rw [List.map_cons, List.flatten_cons, List.countP_append, List.countP_cons,
          item.countP_isStart (hsingle item List.mem_cons_self),
          ih fun other hm => hsingle other (List.mem_cons_of_mem _ hm), Nat.add_comm]
  exact hcount items h.single

theorem exists_leaves (h : Sound items) : 1 ≤ items.countP Item.leaves := by
  obtain ⟨item, hm, hinitial, htargets⟩ := h.leaves
  exact List.countP_pos_iff.mpr ⟨item, hm, by simp [Item.leaves, hinitial, htargets]⟩

-- The flags are raised by any item. They speak of one and the same initial item just when there is
-- no second one.
theorem singleStart_iff (h : Sound items) :
    SingleStart items ↔ items.countP (·.name = Name.initial) ≤ 1 := by
  rw [List.countP_eq_length_filter]
  constructor
  · rintro ⟨item, t, target, honly, -⟩
    rw [honly]
    exact Nat.le_refl _
  · intro hcount
    have hmem {item : Item} (hm : item ∈ items) (hinitial : item.isInitial = true) :
        item ∈ items.filter (·.name = Name.initial) :=
      List.mem_filter.mpr ⟨hm, by simpa using item.isInitial_iff.mp hinitial⟩
    obtain ⟨leaving, hleaving, hleavingInitial, htargets⟩ := h.leaves
    obtain ⟨attached, hattached, hattachedInitial, hcondition⟩ := h.attached
    obtain ⟨t, target, ht, hnext⟩ :=
      Item.exists_transition_of_leaves (h.single leaving hleaving hleavingInitial) htargets
    -- the item that leaves and the attached one are the same, since there is but one
    have hm := hmem hleaving hleavingInitial
    have hn := hmem hattached hattachedInitial
    obtain ⟨item, honly⟩ := List.length_eq_one_iff.mp (Nat.le_antisymm hcount (List.length_pos_of_mem hm))
    rw [honly, List.mem_singleton] at hm hn
    subst hm hn
    exact ⟨_, t, target, honly, hcondition, ht, hnext⟩

theorem countP_leaves_of_singleStart (h : Sound items) (hstart : SingleStart items) :
    items.countP Item.leaves = 1 := by
  have hle : items.countP Item.leaves ≤ items.countP (·.name = Name.initial) := by
    refine List.countP_mono_left fun item _ hleaves => ?_
    simp only [Item.leaves, Bool.and_eq_true] at hleaves
    simpa using item.isInitial_iff.mp hleaves.1
  exact Nat.le_antisymm (Nat.le_trans hle (h.singleStart_iff.mp hstart)) h.exists_leaves

end Sound

-- An accepted model has a single start exactly when it does not declare the initial pseudostate
-- twice. Its items may else share what is asked of the one: any of them may be the attached one, and
-- each that has a target is drawn.
theorem render_singleStart_iff (style : Style) (items : List Item)
    (h : (Health.ofItems items).firstViolation = none) :
    ∃ drawing, (Diagram.ofItems style items).body = .drawing drawing ∧
      (Diagram.ofItems style items).render =
        Diagram.header style.font ++
          (String.join (drawing.declared.map declaration) ++
            String.join (drawing.chunks.map (chunk style.color)) ++
            ((drawing.highlight.map fun h => h.render style.color ++ "\n").getD "")) ++ "@enduml" ∧
      drawing.chunks.flatten.countP Statement.isStart = items.countP Item.leaves ∧
      1 ≤ items.countP Item.leaves ∧
      (SingleStart items ∧ drawing.chunks.flatten.countP Statement.isStart = 1 ↔
        items.countP (·.name = Name.initial) ≤ 1) := by
  have hsound := (Health.firstViolation_eq_none_iff items).mp h
  obtain ⟨drawing, hbody, rfl, hrender⟩ := Diagram.render_eq style items h
  have hcount := hsound.countP_isStart (items.foldl Focus.observeIndex {})
  refine ⟨_, hbody, hrender, hcount, hsound.exists_leaves, ?_⟩
  rw [hcount, ← hsound.singleStart_iff]
  exact and_iff_left_of_imp hsound.countP_leaves_of_singleStart

-- A model with one initial item, which is not the first one.
def lateStart : List Item :=
  [{ name := "A", transitions := [{ next := some Name.initial }, { next := some Name.final }] },
    { name := Name.initial
      attached := some true
      transitions := [{ next := some "A", event := some "e", effect := some "f" }] }]

theorem render_singleStart_lateStart :
    (Health.ofItems lateStart).firstViolation = none ∧ SingleStart lateStart ∧
      ∃ drawing, (Diagram.ofItems .standard lateStart).body = .drawing drawing ∧
        drawing.chunks.flatten.countP Statement.isStart = 1 := by
  obtain ⟨drawing, hbody, -, -, -, hsingle⟩ := render_singleStart_iff .standard lateStart (by decide)
  obtain ⟨hstart, hcount⟩ := hsingle.mpr (by decide)
  exact ⟨by decide, hstart, drawing, hbody, hcount⟩

-- An accepted model that leaves the initial pseudostate for two states.
def twoStarts : List Item :=
  [{ name := Name.initial, attached := some true, transitions := [{ next := some "A" }] },
    { name := Name.initial, attached := some true, transitions := [{ next := some "B" }] }]

theorem twoStarts_not_single :
    (Health.ofItems twoStarts).firstViolation = none ∧
      (Diagram.ofItems .standard twoStarts).render =
        "@startuml\nskinparam defaultFontName \"Noto Sans JP\"\nstate A\nstate B\n[*] --> A\n[*] --> B\n@enduml" ∧
      ¬SingleStart twoStarts := by
  refine ⟨by decide, by decide +kernel, ?_⟩
  rintro ⟨item, t, target, honly, -⟩
  simp [twoStarts] at honly

end Statechart
