import Statechart.Proofs.Diagram.Highlight
import Statechart.Proofs.Diagram.Renamed

namespace Statechart

namespace Name

-- A name as the editor writes it while a state is the active one: only that state's is marked.
def mark (active name : String) : String :=
  if name = active then name ++ marker else name

theorem mark_self (active : String) : mark active active = active ++ marker :=
  if_pos rfl

theorem mark_of_ne {active name : String} (h : name ≠ active) : mark active name = name :=
  if_neg h

theorem sign_mem_append_marker (name : String) : '#' ∈ (name ++ marker).toList := by
  have hsign : '#' ∈ marker.toList := by decide
  simp [hsign]

-- A marked name is none that has no number sign, and the active name is none that stands for something.
theorem mark_eq_iff {active fixed : String} (hactive : active ≠ fixed) (hsign : '#' ∉ fixed.toList) (name : String) :
    mark active name = fixed ↔ name = fixed := by
  by_cases hname : name = active
  · subst hname
    rw [mark_self]
    refine iff_of_false (fun hmarked => hsign ?_) hactive
    rw [← hmarked]
    exact sign_mem_append_marker name
  · rw [mark_of_ne hname]

theorem cosmetic_mark {active : String} (hne : active ≠ "") (hinitial : active ≠ initial) (hfinal : active ≠ final) :
    Cosmetic (mark active) where
  plain name := by
    unfold mark
    split
    · exact plain_append_marker name
    · rfl
  initial_iff := mark_eq_iff hinitial (by decide)
  final_iff := mark_eq_iff hfinal (by decide)
  empty_iff := mark_eq_iff hne (by decide)

theorem isMarked_append_marker (name : String) : isMarked (name ++ marker) = true :=
  (Text.mentions_iff _ _).mpr ⟨name.toList, [], by simp⟩

theorem isMarked_mark {name : String} (h : isMarked name = false) (active : String) :
    isMarked (mark active name) = (name == active) := by
  by_cases hname : name = active
  · subst hname
    rw [mark_self, isMarked_append_marker, beq_self_eq_true]
  · rw [mark_of_ne hname, h, beq_false_of_ne hname]

theorem mark_eq_append_marker_iff {name : String} (h : isMarked name = false) (active : String) :
    mark active name = active ++ marker ↔ name = active := by
  by_cases hname : name = active
  · rw [hname, mark_self, eq_self, eq_self]
  · rw [mark_of_ne hname]
    refine iff_of_false (fun hmarked => ?_) hname
    rw [hmarked, isMarked_append_marker] at h
    exact Bool.noConfusion h

-- A marked name still has to be named if it had to be.
theorem isUndefined_mark (active name : String) : isUndefined (mark active name) = isUndefined name := by
  unfold mark
  split
  · have hne : placeholder.toList ≠ [] := by decide
    have hapart : ∀ c ∈ placeholder.toList, c ∉ marker.toList := by simp [placeholder, marker]
    rw [Bool.eq_iff_iff, isUndefined, isUndefined, Text.mentions_iff, Text.mentions_iff, String.toList_append]
    exact Text.infix_append_iff_of_disjoint hne hapart
  · rfl

end Name

theorem activeState_eq_none {items : List Item} (h : ∀ target ∈ targets items, Name.isMarked target = false) :
    activeState items = none := by
  rw [activeState, List.find?_eq_none]
  intro target ht
  rw [h target ht]
  exact Bool.false_ne_true

-- With no other mark in a model, its active state is the marked one if an edge leads to it.
theorem activeState_mark {items : List Item} (h : ∀ target ∈ targets items, Name.isMarked target = false)
    (state : String) :
    activeState (items.map (Item.rename (Name.mark state))) =
      if state ∈ targets items then some (state ++ Name.marker) else none := by
  have hfilter : (targets items).filter (Name.isMarked ∘ Name.mark state) = (targets items).filter (· == state) :=
    List.filter_congr fun target ht => Name.isMarked_mark (h target ht) state
  rw [activeState, targets_rename, List.find?_map, ← List.head?_filter, hfilter, List.head?_filter, find?_beq]
  split
  · rw [Option.map_some, Name.mark_self]
  · rfl

namespace Drawing

-- A drawing in which a state is marked wherever it is named but in declarations. If an edge leads to
-- the state, it is the active one for a highlight.
def mark (state : String) (reached : Bool) (d : Drawing) : Drawing where
  declared := d.declared
  chunks := d.chunks.map (List.map (Statement.rename (Name.mark state)))
  highlight := d.highlight.map fun h => ⟨Name.mark state h.subject, h.template, reached && h.subject == state⟩

theorem ofItems_mark {items : List Item} (hunmarked : ∀ name ∈ writtenNames items, Name.isMarked name = false)
    {state : String} (h : Cosmetic (Name.mark state)) :
    ofItems (items.map (Item.rename (Name.mark state)))
        ((items.map (Item.rename (Name.mark state))).foldl Focus.observeIndex {}) =
      (ofItems items (items.foldl Focus.observeIndex {})).mark state (decide (state ∈ targets items)) := by
  have htargets : ∀ target ∈ targets items, Name.isMarked target = false := fun target ht =>
    hunmarked target (List.mem_append_right _ ht)
  have hchunks : (items.map (Item.rename (Name.mark state))).map Item.statements =
      (items.map Item.statements).map (List.map (Statement.rename (Name.mark state))) := by
    rw [List.map_map, List.map_map]
    exact List.map_congr_left fun item _ => item.statements_rename h
  have hhighlight : (Focus.ofItems (items.map (Item.rename (Name.mark state)))).highlight?
        (activeState (items.map (Item.rename (Name.mark state)))) =
      ((Focus.ofItems items).highlight? (activeState items)).map fun highlight =>
        ⟨Name.mark state highlight.subject, highlight.template,
          decide (state ∈ targets items) && highlight.subject == state⟩ := by
    rw [Focus.ofItems_rename, Focus.highlight?_rename h _ (activeState items), activeState_mark htargets]
    refine Option.map_congr fun highlight hsome => ?_
    -- the subject is a name of the model, so it has the marker only if it has just got it
    have hsubject := hunmarked _ (subject_mem_writtenNames hsome)
    have hactive : ((if state ∈ targets items then some (state ++ Name.marker) else none) ==
        some (Name.mark state highlight.subject)) =
          (decide (state ∈ targets items) && highlight.subject == state) := by
      by_cases hmem : state ∈ targets items
      · rw [if_pos hmem, decide_eq_true hmem, Bool.true_and, Bool.eq_iff_iff, beq_iff_eq, beq_iff_eq,
          Option.some_inj, eq_comm, Name.mark_eq_append_marker_iff hsubject]
      · rw [if_neg hmem, decide_eq_false hmem]
        rfl
    rw [hactive]
  rw [ofItems, states_rename h, hchunks]
  exact congrArg (Drawing.mk _ _) hhighlight

end Drawing

-- That a state is the active one changes no notice and no declaration of a model without marks.
-- Edges and lines of behaviour are the same but for the mark on that state's name, and so is a
-- highlight, which is chained to the style of the active state if that is what it is about.
theorem render_marked (style : Style) (items : List Item) (state : String)
    (hunmarked : ∀ name ∈ writtenNames items, ¬Name.marker.toList <:+: name.toList)
    (hne : state ≠ "") (hinitial : state ≠ Name.initial) (hfinal : state ≠ Name.final) :
    let unmarked := Diagram.ofItems style items
    let marked := Diagram.ofItems style (items.map (Item.rename (Name.mark state)))
    marked.notice? = unmarked.notice? ∧
      (∀ notice, unmarked.notice? = some notice → marked.render = unmarked.render) ∧
      (unmarked.notice? = none →
        ∃ drawing, unmarked.body = .drawing drawing ∧
          marked.body = .drawing (drawing.mark state (decide (state ∈ targets items))) ∧
          unmarked.render = Diagram.header style.font ++ drawing.render style.color ++ "@enduml" ∧
          marked.render = Diagram.header style.font ++
            (drawing.mark state (decide (state ∈ targets items))).render style.color ++ "@enduml" ∧
          ∀ highlight, drawing.highlight = some highlight → highlight.active = false ∧
            Name.isUndefined (Name.mark state highlight.subject) = Name.isUndefined highlight.subject) := by
  intro unmarked marked
  have hcosmetic := Name.cosmetic_mark hne hinitial hfinal
  have hhealth := Health.ofItems_rename hcosmetic items
  have hplain : ∀ name ∈ writtenNames items, Name.isMarked name = false := by
    intro name hn
    rw [← Bool.not_eq_true, Name.isMarked, Text.mentions_iff]
    exact hunmarked name hn
  refine ⟨Diagram.notice?_congr style hhealth, fun notice => Diagram.render_congr_of_notice style hhealth, ?_⟩
  intro hnone
  rw [Diagram.notice?_ofItems] at hnone
  obtain ⟨drawing, hbody, rfl, hrender⟩ := Diagram.render_eq style items hnone
  obtain ⟨other, hbodyMarked, rfl, hrenderMarked⟩ :=
    Diagram.render_eq style (items.map (Item.rename (Name.mark state))) (hhealth ▸ hnone)
  rw [Drawing.ofItems_mark hplain hcosmetic] at hbodyMarked hrenderMarked
  refine ⟨_, hbody, hbodyMarked, hrender, hrenderMarked, ?_⟩
  intro highlight hsome
  obtain ⟨-, -, -, -, -, hactive⟩ := (Focus.highlight?_eq_some_iff _ _ _).mp hsome
  rw [activeState_eq_none fun target ht => hplain target (List.mem_append_right _ ht)] at hactive
  exact ⟨hactive, Name.isUndefined_mark state highlight.subject⟩

-- A model in which a state is left, led to, acted in and looked at.
def unmarkedFocus : List Item :=
  [{ name := Name.initial, attached := some true, transitions := [{ next := some "未定義1" }] },
    { name := "未定義1"
      transitions := [{ next := some "B" }, { next := some Name.final, event := some "e" }]
      behavior := { entry := some "x" } },
    { name := "B"
      transitions := [{ next := some "未定義1" }]
      click := some { kind := some (.block .changeState), number := some 0 } }]

theorem render_marked_unmarkedFocus :
    (∀ name ∈ writtenNames unmarkedFocus, ¬Name.marker.toList <:+: name.toList) ∧
      (Diagram.ofItems .standard unmarkedFocus).notice? = none ∧
      (Diagram.ofItems .standard (unmarkedFocus.map (Item.rename (Name.mark "未定義1")))).render =
        "@startuml\nskinparam defaultFontName \"Noto Sans JP\"\nstate 未定義1#text:red\nstate B\n" ++
          "[*] --> 未定義1#FF5555\n未定義1#FF5555 --> B\n未定義1#FF5555 --> [*] :e\n" ++
          "未定義1#FF5555 : entry / x\nB --> 未定義1#FF5555\n" ++
          "state 未定義1#FF5555;line:orange;line.bold;text:red\n@enduml" := by
  have hunmarked : ∀ name ∈ writtenNames unmarkedFocus, ¬Name.marker.toList <:+: name.toList := by
    simp only [← Text.mentions_iff]
    decide +kernel
  have hnone : (Diagram.ofItems .standard unmarkedFocus).notice? = none := by decide +kernel
  obtain ⟨-, -, hdrawn⟩ :=
    render_marked .standard unmarkedFocus "未定義1" hunmarked (by decide) (by decide) (by decide)
  obtain ⟨drawing, hbody, -, -, hrender, -⟩ := hdrawn hnone
  obtain rfl : .ofItems unmarkedFocus (unmarkedFocus.foldl Focus.observeIndex {}) = drawing := Body.drawing.inj hbody
  exact ⟨hunmarked, hnone, hrender.trans (by decide +kernel)⟩

end Statechart
