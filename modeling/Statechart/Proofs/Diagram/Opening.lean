import Statechart.Proofs.Diagram.Coverage
import Statechart.Proofs.States.FirstSeen

namespace Statechart

-- How everything that is written about an item begins: a word, a blank, and a character that is in
-- no name. Neither a declaration nor a note begins so.
def OpensWithMark (text : List Char) : Prop :=
  ∃ word mark rest, text = word ++ ' ' :: mark :: rest ∧ ' ' ∉ word ∧ Name.isAllowed mark = false ∧ mark ≠ '#'

namespace OpensWithMark

theorem append {text : List Char} (h : OpensWithMark text) (tail : List Char) :
    OpensWithMark (text ++ tail) := by
  obtain ⟨word, mark, rest, rfl, hword, hmark, hne⟩ := h
  exact ⟨word, mark, rest ++ tail, by simp, hword, hmark, hne⟩

-- What follows the first word of such a text is not what follows the first word of one with a name there.
theorem not_begins {text : List Char} (h : OpensWithMark text) {word : List Char} {c : Char}
    (hword : ' ' ∉ word) (hc : Name.isAllowed c = true ∨ c = '#') (rest : List Char) :
    ¬word ++ ' ' :: c :: rest <+: text := by
  obtain ⟨other, mark, tail, rfl, hother, hmark, hne⟩ := h
  intro hbegins
  have hhead := (Text.prefix_of_append_cons hword hother hbegins).2
  have hcm := (List.cons_prefix_cons.mp hhead).1
  rcases hc with hallowed | hsign
  · exact Name.ne_of_isAllowed hallowed hmark hcm
  · exact hne (hcm.symm.trans hsign)

theorem not_begins_declaration {text : List Char} (h : OpensWithMark text) {name : String}
    (hvalid : Name.isValid name = true) (hne : name ≠ "") : ¬(declaration name).toList <+: text := by
  cases hname : name.toList with
  | nil => exact absurd (String.toList_eq_nil_iff.mp hname) hne
  | cons c cs =>
      have hblank : ' ' ∉ "state".toList := by decide
      have hc : Name.isAllowed c = true ∨ c = '#' := Name.mem_of_isValid hvalid (by simp [hname])
      have hnot := h.not_begins hblank hc
        (cs ++ (if Name.isUndefined name then "#text:red" else "").toList ++ ['\n'])
      simpa [declaration, hname] using hnot

theorem not_begins_note {text : List Char} (h : OpensWithMark text) (notice : Notice) :
    ¬notice.note.toList <+: text := by
  have hblank : ' ' ∉ "note".toList := by decide
  have ha : Name.isAllowed 'a' = true ∨ 'a' = '#' := .inl (by decide)
  have hnot := h.not_begins hblank ha
    ("s ".toList ++ notice.label.toList ++ ['\n'] ++
      (String.join (notice.lines.map (· ++ "\n"))).toList ++ " end note\n".toList)
  simpa [Notice.note] using hnot

end OpensWithMark

theorem Arrow.render_head (color : String) (arrow : Arrow) :
    ∃ rest, (arrow.render color).toList = '-' :: rest := by
  cases arrow with
  | ordinary => exact ⟨['-', '>'], by simp [Arrow.render]⟩
  | colored => exact ⟨'[' :: '#' :: color.toList ++ "]->".toList, by simp [Arrow.render]⟩

namespace Statement

-- The first word of what is written for a statement, and the character that stands behind the blank after it.
def word : Statement → String
  | .start _ _ _ _ _ => "[*]"
  | .edge source _ _ _ => source
  | .behavior owner _ _ _ => owner

def mark : Statement → Char
  | .start _ _ _ _ _ | .edge _ _ _ _ => '-'
  | .behavior _ _ _ _ => ':'

theorem render_head (color : String) (s : Statement) :
    ∃ rest, (s.render color).toList = s.word.toList ++ ' ' :: s.mark :: rest := by
  cases s with
  | start arrow target effect event guard =>
      obtain ⟨rest, harrow⟩ := arrow.render_head color
      simp [render, word, mark, harrow]
  | edge source arrow target label =>
      obtain ⟨rest, harrow⟩ := arrow.render_head color
      simp [render, word, mark, harrow]
  | behavior owner rule colored text => simp [render, word, mark]

theorem opens (color : String) {s : Statement} (h : ' ' ∉ s.word.toList) : OpensWithMark (s.render color).toList := by
  obtain ⟨rest, hrest⟩ := s.render_head color
  have hmark : s.mark = '-' ∨ s.mark = ':' := by cases s <;> simp [mark]
  refine ⟨s.word.toList, s.mark, rest, hrest, h, ?_, ?_⟩ <;> rcases hmark with hmark | hmark <;> rw [hmark] <;> decide

end Statement

-- Every edge and every line of behaviour of an item with a valid name begins with a mark.
theorem Item.owed_opens (color : String) (item : Item) (hvalid : Name.isValid item.name = true) {text : String}
    (ht : text ∈ item.owed color) : OpensWithMark text.toList := by
  have hname := Name.blank_notMem hvalid
  unfold Item.owed at ht
  split at ht
  · obtain ⟨t, -, htext⟩ := List.mem_flatMap.mp ht
    obtain ⟨target, -, rfl⟩ := List.mem_map.mp htext
    have hword : ' ' ∉ "[*]".toList := by decide
    exact Statement.opens color (s := .start (.of item) target t.effect t.event.isSome t.guard.isSome) hword
  split at ht
  · simp at ht
  simp only [List.mem_append, List.mem_map] at ht
  rcases ht with ((hedge | ⟨part, -, rfl⟩) | ⟨part, -, rfl⟩) | ⟨part, -, rfl⟩
  · obtain ⟨t, -, htext⟩ := List.mem_flatMap.mp hedge
    obtain ⟨target, -, rfl⟩ := List.mem_map.mp htext
    exact Statement.opens color (s := .edge item.name (.of item) target t.label?) hname
  all_goals exact Statement.opens color (s := .behavior item.name _ _ part) hname

-- So does the whole text between the declarations and the highlight of a sound model, since there is
-- an edge from the initial pseudostate in it.
theorem Sound.body_opens {items : List Item} (h : Sound items) (color : String) :
    OpensWithMark (String.join (items.map fun item => String.join (item.owed color))).toList := by
  have hjoin : String.join (items.map fun item => String.join (item.owed color)) =
      String.join (items.flatMap (Item.owed color)) := by
    clear h
    induction items with
    | nil => rfl
    | cons item rest ih => simp [ih]
  rw [hjoin]
  obtain ⟨item, hm, -, edge, hedge, -⟩ := h.exists_start color
  cases htexts : items.flatMap (Item.owed color) with
  | nil =>
      rw [List.flatMap_eq_nil_iff.mp htexts item hm] at hedge
      simp at hedge
  | cons text rest =>
      have hfirst : text ∈ items.flatMap (Item.owed color) := by rw [htexts]; exact List.mem_cons_self
      obtain ⟨owner, howner, htext⟩ := List.mem_flatMap.mp hfirst
      rw [String.join_cons, String.toList_append]
      exact (owner.owed_opens color (h.validName owner howner) htext).append _

-- So the declarations of a sound model end where its document first says something else.
theorem Sound.render_opens {items : List Item} (h : Sound items) (style : Style) :
    ∃ drawing rest, (Diagram.ofItems style items).body = .drawing drawing ∧
      drawing = .ofItems items (items.foldl Focus.observeIndex {}) ∧
      (Diagram.ofItems style items).render =
        Diagram.header style.font ++ String.join (drawing.declared.map declaration) ++ rest ∧
      OpensWithMark rest.toList := by
  obtain ⟨drawing, hbody, hdrawing, -, hrender⟩ := h.render_eq style
  refine ⟨drawing, String.join (items.map fun item => String.join (item.owed style.color)) ++
    (((drawing.highlight.map fun h => h.render style.color ++ "\n").getD "") ++ "@enduml"), hbody, hdrawing, ?_, ?_⟩
  · rw [hrender]
    simp only [String.append_assoc]
  · rw [String.toList_append]
    exact (h.body_opens style.color).append _

theorem Notice.note_injective {m n : Notice} (h : m.note = n.note) : m = n := by
  have hall : ∀ m ∈ Notice.all, ∀ n ∈ Notice.all, m.note = n.note → m = n := by decide +kernel
  have hm (n : Notice) : n ∈ Notice.all := by cases n <;> decide
  exact hall m (hm m) n (hm n) h

-- A document with a drawing is none that shows a notice, whatever is written in the drawing: its
-- first line is a declaration or begins as everything about an item does.
theorem Sound.render_ne_notice {items : List Item} (h : Sound items) (style : Style) (notice : Notice) :
    (Diagram.ofItems style items).render ≠ Diagram.header style.font ++ notice.note ++ "@enduml" := by
  obtain ⟨drawing, rest, -, -, hrender, hopens⟩ := h.render_opens style
  intro heq
  rw [hrender, String.append_assoc, String.append_assoc] at heq
  have htexts : (String.join (drawing.declared.map declaration)).toList ++ rest.toList =
      notice.note.toList ++ "@enduml".toList := by
    have := congrArg String.toList heq
    simpa only [String.toList_append, List.append_cancel_left_eq] using this
  cases hdeclared : drawing.declared with
  | nil =>
      rw [hdeclared] at htexts
      exact hopens.not_begins_note notice ⟨_, htexts.symm⟩
  | cons name names =>
      rw [hdeclared] at htexts
      simp [declaration, Notice.note] at htexts

-- The document shows a notice, and nothing else, exactly when the model is at fault in that way.
theorem Diagram.render_eq_notice_iff (style : Style) (items : List Item) (notice : Notice) :
    (ofItems style items).render = header style.font ++ notice.note ++ "@enduml" ↔
      (Health.ofItems items).firstViolation = some notice := by
  cases hviolation : (Health.ofItems items).firstViolation with
  | none =>
      have hsound := (Health.firstViolation_eq_none_iff items).mp hviolation
      exact ⟨fun heq => absurd heq (hsound.render_ne_notice style notice), fun h => by simp at h⟩
  | some found =>
      rw [render_eq_of_violation style hviolation]
      constructor
      · intro heq
        have hnotes := (String.append_left_inj _).mp heq
        exact congrArg some (Notice.note_injective ((String.append_right_inj _).mp hnotes))
      · intro h
        rw [Option.some.inj h]

end Statechart
