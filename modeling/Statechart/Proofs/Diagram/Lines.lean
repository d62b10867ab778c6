import Statechart.Proofs.Diagram.Highlight
import Statechart.Proofs.Style.Validity
import Statechart.Proofs.Text.Lines

namespace Statechart

open Text (lineFeeds)

namespace Statement

def line (color : String) : Statement → String
  | .start arrow target effect _ _ =>
      "[*] " ++ arrow.render color ++ " " ++ Name.token target ++ ((effect.map fun e => " : / " ++ e).getD "")
  | .edge source arrow target label =>
      source ++ " " ++ arrow.render color ++ " " ++ Name.token target ++ ((label.map fun l => " :" ++ l).getD "")
  | .behavior owner rule colored text => owner ++ " : " ++ ruleLabel color rule colored ++ " / " ++ text

def startNoteLines (event guard : Bool) : List String :=
  let eventLines := [" 'InitialStateEventError", " <b><color:red> 「初期状態」には「イベント」を設定できません"]
  let guardLines := [" 'InitialStateConditionError", " <b><color:red> 「初期状態」には「条件」を設定できません"]
  if event || guard then
    "note on link #FFF8DC" :: ((if event then eventLines else []) ++ (if guard then guardLines else []) ++ ["end note"])
  else []

def noteLines : Statement → List String
  | .start _ _ _ event guard => startNoteLines event guard
  | .edge _ _ _ _ | .behavior _ _ _ _ => []

def lines (color : String) (s : Statement) : List String :=
  s.line color :: s.noteLines

-- The names that a statement writes.
def names : Statement → List String
  | .start _ target _ _ _ => [target]
  | .edge source _ target _ => [source, target]
  | .behavior owner _ _ _ => [owner]

-- The texts that a statement writes as they are.
def texts : Statement → List String
  | .start _ _ effect _ _ => effect.toList
  | .edge _ _ _ label => label.toList
  | .behavior _ _ _ text => [text]

theorem render_eq_lines (color : String) (s : Statement) :
    s.render color = String.join ((s.lines color).map (· ++ "\n")) := by
  cases s with
  | start arrow target effect event guard =>
      have hnote : startNote event guard = String.join ((startNoteLines event guard).map (· ++ "\n")) := by
        revert event guard
        decide +kernel
      simp [render, lines, line, noteLines, hnote]
  | edge source arrow target label => simp [render, lines, line, noteLines]
  | behavior owner rule colored text => simp [render, lines, line, noteLines]

theorem startNoteLine_fixed {event guard : Bool} {line : String} (h : line ∈ startNoteLines event guard) :
    ' ' ∈ line.toList ∧ '\n' ∉ line.toList := by
  unfold startNoteLines at h
  split at h
  · simp only [List.mem_cons, List.mem_append, List.mem_ite_nil_right, List.not_mem_nil, or_false] at h
    rcases h with rfl | (⟨-, rfl | rfl⟩ | ⟨-, rfl | rfl⟩) | rfl <;>
      exact Text.toList_ofList_of (fun cs => ' ' ∈ cs ∧ '\n' ∉ cs) (by decide)
  · simp at h

theorem noteLine_fixed {s : Statement} {line : String} (h : line ∈ s.noteLines) :
    ' ' ∈ line.toList ∧ '\n' ∉ line.toList := by
  cases s with
  | start arrow target effect event guard => exact startNoteLine_fixed h
  | edge source arrow target label => simp [noteLines] at h
  | behavior owner rule colored text => simp [noteLines] at h

theorem blank_mem_lines {color : String} {s : Statement} {line : String} (h : line ∈ s.lines color) :
    ' ' ∈ line.toList := by
  rcases List.mem_cons.mp h with rfl | hnote
  · cases s <;> simp [Statement.line]
  · exact (noteLine_fixed hnote).1

theorem lineFeeds_token {name : String} (h : lineFeeds name = 0) : lineFeeds (Name.token name) = 0 := by
  unfold Name.token
  split
  · decide
  · exact h

theorem lineFeeds_arrow {color : String} (h : lineFeeds color = 0) (arrow : Arrow) :
    lineFeeds (arrow.render color) = 0 := by
  cases arrow with
  | ordinary => simp [Arrow.render, lineFeeds]
  | colored => simpa [Arrow.render, lineFeeds] using h

theorem lineFeeds_ruleLabel {color : String} (h : lineFeeds color = 0) (rule : Rule) (colored : Bool) :
    lineFeeds (ruleLabel color rule colored) = 0 := by
  have hlabel : lineFeeds rule.label = 0 := by cases rule <;> exact Text.lineFeeds_ofList (by decide)
  have hopen : lineFeeds "<color:" = 0 := Text.lineFeeds_ofList (by decide)
  have hbracket : lineFeeds ">" = 0 := Text.lineFeeds_ofList (by decide)
  have hclose : lineFeeds "<color:black>" = 0 := Text.lineFeeds_ofList (by decide)
  cases colored with
  | false => exact hlabel
  | true => simp only [ruleLabel, if_true, Text.lineFeeds_append, hopen, h, hbracket, hlabel, hclose]

-- Only by its texts can a statement come to more lines than it has.
theorem lineFeeds_lines {color : String} (hcolor : lineFeeds color = 0) {s : Statement}
    (hnames : ∀ name ∈ s.names, lineFeeds name = 0) :
    lineFeeds (String.join (s.lines color)) = lineFeeds (String.join s.texts) := by
  have hnote : lineFeeds (String.join s.noteLines) = 0 :=
    (Text.lineFeeds_join_eq_zero_iff _).mpr fun _ hline => (noteLine_fixed hline).2
  have hline : lineFeeds (s.line color) = lineFeeds (String.join s.texts) := by
    have hblank : lineFeeds " " = 0 := by decide
    cases s with
    | start arrow target effect event guard =>
        have hopen : lineFeeds "[*] " = 0 := by decide
        have htarget := lineFeeds_token (hnames target (by simp [names]))
        have heffect := Text.lineFeeds_getD_map effect (fun e => " : / " ++ e) (by simp [lineFeeds])
        simp [line, texts, hopen, hblank, lineFeeds_arrow hcolor, htarget, heffect]
    | edge source arrow target label =>
        have hsource := hnames source (by simp [names])
        have htarget := lineFeeds_token (hnames target (by simp [names]))
        have hlabel := Text.lineFeeds_getD_map label (fun l => " :" ++ l) (by simp [lineFeeds])
        simp [line, texts, hsource, hblank, lineFeeds_arrow hcolor, htarget, hlabel]
    | behavior owner rule colored text =>
        have howner := hnames owner (by simp [names])
        have hcolon : lineFeeds " : " = 0 := by decide
        have hslash : lineFeeds " / " = 0 := by decide
        simp [line, texts, howner, hcolon, hslash, lineFeeds_ruleLabel hcolor]
  rw [lines, String.join_cons, Text.lineFeeds_append, hline, hnote, Nat.add_zero]

end Statement

-- The parts of a label, each as it is written in it.
def Transition.shown (t : Transition) : List String :=
  (t.event.filter (· != completion)).toList ++ t.guard.toList ++ t.effect.toList

theorem Transition.lineFeeds_label (t : Transition) :
    lineFeeds (String.join t.label?.toList) = lineFeeds (String.join t.shown) := by
  unfold label? shown
  cases t.event.filter (· != completion) <;> cases t.guard <;> cases t.effect <;> simp [lineFeeds]

namespace Item

-- The texts of an item that are drawn, besides names.
def drawnTexts (item : Item) : List String :=
  if item.isInitial then item.targeted.flatMap fun (t, _) => t.effect.toList
  else if item.name = "" then []
  else (item.targeted.flatMap fun (t, _) => t.shown) ++ item.behavior.rules.map Prod.snd

theorem lineFeeds_texts (item : Item) (h : item.isInitial = true → item.transitions.length ≤ 1) :
    lineFeeds (String.join (item.statements.flatMap Statement.texts)) = lineFeeds (String.join item.drawnTexts) := by
  unfold statements drawnTexts
  by_cases hinitial : item.isInitial = true
  · rw [if_pos hinitial, if_pos hinitial, item.startStatements_eq (h hinitial), List.flatMap_map]
    rfl
  · rw [if_neg hinitial, if_neg hinitial]
    by_cases hname : item.name = ""
    · rw [if_pos hname, if_pos hname, List.flatMap_nil]
    · have hedge : lineFeeds (String.join (item.edgeStatements.flatMap Statement.texts)) =
          lineFeeds (String.join (item.targeted.flatMap fun (t, _) => t.shown)) := by
        rw [edgeStatements, List.flatMap_map]
        exact Text.lineFeeds_join_flatMap fun drawn _ => drawn.1.lineFeeds_label
      have hbehavior : item.behaviorStatements.flatMap Statement.texts = item.behavior.rules.map Prod.snd := by
        rw [behaviorStatements, List.flatMap_map]
        exact List.flatMap_pure_eq_map _ _
      rw [if_neg hname, if_neg hname, List.flatMap_append, String.join_append, String.join_append,
        Text.lineFeeds_append, Text.lineFeeds_append, hedge, hbehavior]

theorem mem_of_mem_names {item : Item} {s : Statement} (hs : s ∈ item.statements) {name : String}
    (hn : name ∈ s.names) : name = item.name ∨ name ∈ item.targets := by
  rcases mem_statements hs with ⟨-, t, target, ht, rfl⟩ | ⟨-, -, ⟨t, target, ht, rfl⟩ | ⟨rule, text, -, rfl⟩⟩
  · rw [List.mem_singleton.mp hn]
    exact .inr (List.mem_map_of_mem ht)
  · rcases List.mem_cons.mp hn with rfl | htarget
    · exact .inl rfl
    · rw [List.mem_singleton.mp htarget]
      exact .inr (List.mem_map_of_mem ht)
  · exact .inl (List.mem_singleton.mp hn)

end Item

-- The texts of a model that its document has in it as they are.
def drawnTexts (items : List Item) : List String :=
  match (Health.ofItems items).firstViolation with
  | some _ => []
  | none => items.flatMap Item.drawnTexts

theorem Highlight.lineFeeds_render {color : String} (hcolor : lineFeeds color = 0) {h : Highlight}
    (hsubject : lineFeeds h.subject = 0) : lineFeeds (h.render color) = 0 := by
  have hred : lineFeeds (if Name.isUndefined h.subject then ";text:red" else "") = 0 := by
    split <;> exact Text.lineFeeds_ofList (by decide)
  have hstate : lineFeeds "state " = 0 := Text.lineFeeds_ofList (by decide)
  have hmarker : lineFeeds Name.marker = 0 := Text.lineFeeds_ofList (by decide)
  have hblank : lineFeeds " " = 0 := Text.lineFeeds_ofList (by decide)
  have hbold : lineFeeds ";line.bold" = 0 := Text.lineFeeds_ofList (by decide)
  have houtline : lineFeeds " #line:" = 0 := Text.lineFeeds_ofList (by decide)
  have hchained : lineFeeds ";line:" = 0 := Text.lineFeeds_ofList (by decide)
  have hcolored : lineFeeds " #text:" = 0 := Text.lineFeeds_ofList (by decide)
  have hrecolored : lineFeeds ";text:" = 0 := Text.lineFeeds_ofList (by decide)
  rcases h with ⟨subject, template, active⟩
  cases template <;> cases active <;>
    simp only [render, Text.lineFeeds_append, hstate, hsubject, hcolor, hred, hmarker, hblank, hbold, houtline,
      hchained, hcolored, hrecolored]

theorem Highlight.blank_mem_render (color : String) (h : Highlight) : ' ' ∈ (h.render color).toList := by
  simp [render]

namespace Drawing

def declarationLine (name : String) : String :=
  "state " ++ name ++ if Name.isUndefined name then "#text:red" else ""

def lines (color : String) (d : Drawing) : List String :=
  d.declared.map declarationLine ++ d.chunks.flatten.flatMap (Statement.lines color) ++
    (d.highlight.map (Highlight.render color)).toList

theorem join_chunks (color : String) (chunks : List (List Statement)) :
    String.join (chunks.map (chunk color)) =
      String.join ((chunks.flatten.flatMap (Statement.lines color)).map (· ++ "\n")) := by
  have hchunk (statements : List Statement) : chunk color statements =
      String.join ((statements.flatMap (Statement.lines color)).map (· ++ "\n")) := by
    induction statements with
    | nil => rfl
    | cons s rest ih =>
        have hrest : String.join (rest.map (Statement.render color)) = chunk color rest := rfl
        rw [chunk, List.map_cons, String.join_cons, hrest, ih, s.render_eq_lines, List.flatMap_cons, List.map_append,
          String.join_append]
  induction chunks with
  | nil => rfl
  | cons statements rest ih =>
      rw [List.map_cons, String.join_cons, ih, hchunk, List.flatten_cons, List.flatMap_append, List.map_append,
        String.join_append]

theorem render_eq_lines (color : String) (d : Drawing) :
    d.render color = String.join ((d.lines color).map (· ++ "\n")) := by
  have hdeclared : d.declared.map declaration = (d.declared.map declarationLine).map (· ++ "\n") := by
    rw [List.map_map]
    rfl
  have hhighlight : (d.highlight.map fun h => h.render color ++ "\n").getD "" =
      String.join ((d.highlight.map (Highlight.render color)).toList.map (· ++ "\n")) := by
    cases d.highlight <;> simp
  rw [render, hdeclared, join_chunks, hhighlight, lines, List.map_append, List.map_append, String.join_append,
    String.join_append]

theorem blank_mem_lines {color : String} {d : Drawing} {line : String} (h : line ∈ d.lines color) :
    ' ' ∈ line.toList := by
  simp only [lines, List.mem_append] at h
  rcases h with (hdeclared | hsaid) | hhighlight
  · obtain ⟨name, -, rfl⟩ := List.mem_map.mp hdeclared
    simp [declarationLine]
  · obtain ⟨s, -, hline⟩ := List.mem_flatMap.mp hsaid
    exact Statement.blank_mem_lines hline
  · rw [Option.mem_toList, Option.map_eq_some_iff] at hhighlight
    obtain ⟨highlight, -, rfl⟩ := hhighlight
    exact highlight.blank_mem_render color

end Drawing

namespace Sound

variable {items : List Item}

theorem lineFeeds_written (h : Sound items) {name : String} (hn : name ∈ writtenNames items) : lineFeeds name = 0 := by
  rw [Text.lineFeeds_eq_zero_iff]
  exact Name.notMem_of_isValid (h.isValid_of_written hn) (by decide) (by decide)

theorem lineFeeds_declared (h : Sound items) {name : String} (hn : name ∈ states items) :
    lineFeeds (Drawing.declarationLine name) = 0 := by
  have hname : lineFeeds name = 0 := (Text.lineFeeds_eq_zero_iff name).mpr fun hm =>
    Name.ne_of_isAllowed (h.isAllowed_of_mem_states hn hm) (by decide) rfl
  unfold lineFeeds at hname
  cases hred : Name.isUndefined name <;> simp [Drawing.declarationLine, lineFeeds, hred, hname]

-- In a drawing there is no line feed that a name, a color or the highlight would bring along.
theorem lineFeeds_lines (h : Sound items) {color : String} (hcolor : lineFeeds color = 0) :
    lineFeeds (String.join ((Drawing.ofItems items (items.foldl Focus.observeIndex {})).lines color)) =
      lineFeeds (String.join (items.flatMap Item.drawnTexts)) := by
  have hdeclared : lineFeeds (String.join
      (((states items).filter (!Name.isReserved ·)).map Drawing.declarationLine)) = 0 := by
    rw [Text.lineFeeds_join_eq_zero_iff]
    intro line hline
    obtain ⟨name, hn, rfl⟩ := List.mem_map.mp hline
    exact (Text.lineFeeds_eq_zero_iff _).mp (h.lineFeeds_declared (List.mem_filter.mp hn).1)
  -- every name in a statement is one that the model writes, and those are sound
  have hitem : ∀ item ∈ items, lineFeeds (String.join (item.statements.flatMap (Statement.lines color))) =
      lineFeeds (String.join item.drawnTexts) := by
    intro item hm
    rw [← item.lineFeeds_texts (h.single item hm)]
    refine Text.lineFeeds_join_flatMap fun s hs => Statement.lineFeeds_lines hcolor fun name hn => ?_
    rcases Item.mem_of_mem_names hs hn with rfl | htarget
    · exact h.lineFeeds_written (Item.name_mem_writtenNames hm)
    · exact h.lineFeeds_written (Item.target_mem_writtenNames hm htarget)
  have hchunks : lineFeeds (String.join ((items.map Item.statements).flatten.flatMap (Statement.lines color))) =
      lineFeeds (String.join (items.flatMap Item.drawnTexts)) := by
    rw [← List.flatMap_def, List.flatMap_assoc]
    exact Text.lineFeeds_join_flatMap hitem
  have hhighlight : lineFeeds (String.join
      (((Focus.ofItems items).highlight? (activeState items)).map (Highlight.render color)).toList) = 0 := by
    cases hh : (Focus.ofItems items).highlight? (activeState items) with
    | none => rfl
    | some highlight =>
        have := Highlight.lineFeeds_render hcolor (h.lineFeeds_written (subject_mem_writtenNames hh))
        simpa using this
  rw [Drawing.lines, String.join_append, String.join_append, Text.lineFeeds_append, Text.lineFeeds_append]
  simp only [Drawing.ofItems]
  rw [hdeclared, hchunks, Nat.zero_add]
  exact Nat.add_eq_left.mpr hhighlight

end Sound

namespace Notice

def noteLines (n : Notice) : List String :=
  ("note as " ++ n.label) :: (n.lines ++ [" end note"])

theorem note_eq_lines (n : Notice) : n.note = String.join (n.noteLines.map (· ++ "\n")) := by
  have hend : " end note\n" = " end note" ++ "\n" := by decide
  rw [note, hend, noteLines, List.map_cons, String.join_cons, List.map_append, String.join_append, List.map_singleton,
    String.join_cons, String.join_nil, String.append_empty, String.append_assoc]

theorem noteLine_fixed {n : Notice} {line : String} (h : line ∈ n.noteLines) :
    '\n' ∉ line.toList ∧ '@' ∉ line.toList := by
  have of_chars := @Text.toList_ofList_of fun cs => '\n' ∉ cs ∧ '@' ∉ cs
  rcases List.mem_cons.mp h with rfl | hrest
  · have hopen : '\n' ∉ "note as ".toList ∧ '@' ∉ "note as ".toList := of_chars (by decide)
    have hlabel : '\n' ∉ n.label.toList ∧ '@' ∉ n.label.toList := by cases n <;> exact of_chars (by decide)
    rw [String.toList_append, List.mem_append, List.mem_append, not_or, not_or]
    exact ⟨⟨hopen.1, hlabel.1⟩, hopen.2, hlabel.2⟩
  · rcases List.mem_append.mp hrest with hline | hend
    · cases n <;> simp only [lines, List.mem_cons, List.not_mem_nil, or_false] at hline
      case multipleInitialTransitions =>
        rcases hline with rfl | rfl <;> exact of_chars (by decide)
      all_goals
        subst hline
        exact of_chars (by decide)
    · rw [List.mem_singleton.mp hend]
      exact of_chars (by decide)

end Notice

namespace Body

def lines (color : String) : Body → List String
  | .notice n => n.noteLines
  | .drawing d => d.lines color

theorem render_eq_lines (color : String) (body : Body) :
    body.render color = String.join ((body.lines color).map (· ++ "\n")) := by
  cases body with
  | notice n => exact n.note_eq_lines
  | drawing d => exact d.render_eq_lines color

theorem close_notMem_lines (color : String) (body : Body) : "@enduml" ∉ body.lines color := by
  cases body with
  | notice n =>
      intro hm
      exact (Notice.noteLine_fixed hm).2 (by decide)
  | drawing d =>
      intro hm
      have hblank : ' ' ∈ "@enduml".toList := Drawing.blank_mem_lines hm
      revert hblank
      decide

end Body

namespace Diagram

def headerLines (font : String) : List String :=
  ["@startuml", "skinparam defaultFontName \"" ++ font ++ "\""]

def lines (d : Diagram) : List String :=
  headerLines d.font ++ d.body.lines d.color

-- Two lines of a header, then those of a note, or one for each state, statement and highlight and
-- what stands in notes on start edges.
def lineCount (d : Diagram) : Nat :=
  2 + match d.body with
    | .notice n => n.lines.length + 2
    | .drawing drawing =>
        drawing.declared.length + drawing.chunks.flatten.length +
          (drawing.chunks.flatten.flatMap Statement.noteLines).length + drawing.highlight.toList.length

theorem header_eq_lines (font : String) : header font = String.join ((headerLines font).map (· ++ "\n")) := by
  have hopen : "@startuml\nskinparam defaultFontName \"" = "@startuml" ++ "\n" ++ "skinparam defaultFontName \"" := by
    decide
  have hclose : "\"\n" = "\"" ++ "\n" := by decide
  have hassoc (a b c d e : String) : a ++ b ++ c ++ font ++ (d ++ e) = String.join [a ++ b, c ++ font ++ d ++ e] := by
    simp only [String.join_cons, String.join_nil, String.append_empty, String.append_assoc]
  calc header font
    _ = "@startuml" ++ "\n" ++ "skinparam defaultFontName \"" ++ font ++ ("\"" ++ "\n") :=
        congrArg₂ (fun front back => front ++ font ++ back) hopen hclose
    _ = String.join ((headerLines font).map (· ++ "\n")) := hassoc _ _ _ _ _

theorem render_eq_lines (d : Diagram) : d.render = String.join (d.lines.map (· ++ "\n")) ++ "@enduml" := by
  rw [render, header_eq_lines, Body.render_eq_lines, lines, List.map_append, String.join_append]

theorem length_lines (d : Diagram) : d.lines.length = d.lineCount := by
  have hstatements (color : String) (statements : List Statement) :
      (statements.flatMap (Statement.lines color)).length =
        statements.length + (statements.flatMap Statement.noteLines).length := by
    induction statements with
    | nil => rfl
    | cons s rest ih =>
        simp only [List.flatMap_cons, List.length_append, ih, Statement.lines, List.length_cons]
        omega
  rcases d with ⟨font, color, body⟩
  have hheader : (headerLines font).length = 2 := rfl
  cases body with
  | notice n =>
      simp only [lines, lineCount, Body.lines, Notice.noteLines, List.length_append, hheader, List.length_cons,
        List.length_nil]
  | drawing drawing =>
      have hhighlight : (drawing.highlight.map (Highlight.render color)).toList.length =
          drawing.highlight.toList.length := by cases drawing.highlight <;> rfl
      simp only [lines, lineCount, Body.lines, Drawing.lines, List.length_append, hheader, List.length_map,
        hstatements, hhighlight]
      omega

-- No line is taken for the end of the document.
theorem close_notMem_lines (d : Diagram) : "@enduml" ∉ d.lines := by
  rw [lines, List.mem_append, not_or]
  refine ⟨?_, d.body.close_notMem_lines d.color⟩
  -- the first line is another word, and the second has a blank
  have hblank : ' ' ∉ "@enduml".toList := by decide
  simp only [headerLines, List.mem_cons, List.not_mem_nil, or_false, not_or]
  refine ⟨by decide, fun hline => hblank ?_⟩
  rw [hline]
  simp

-- Neither a name nor a style adds to the line feeds of a document; the other texts do with theirs.
theorem lineFeeds_lines {style : Style} (hstyle : style.validate = .ok ()) (items : List Item) :
    lineFeeds (String.join (ofItems style items).lines) = lineFeeds (String.join (drawnTexts items)) := by
  have hfont : lineFeeds style.font = 0 := (Text.lineFeeds_eq_zero_iff _).mpr (Style.fitsLine_font hstyle).lineFeed_notMem
  have hcolor : lineFeeds style.color = 0 := (Text.lineFeeds_eq_zero_iff _).mpr (Style.fitsLine_color hstyle).lineFeed_notMem
  have hheader : lineFeeds (String.join (headerLines style.font)) = 0 := by
    rw [Text.lineFeeds_join_eq_zero_iff]
    simpa [headerLines, lineFeeds, List.count_eq_zero] using hfont
  rw [lines, String.join_append, Text.lineFeeds_append, ofItems_eq, hheader, Nat.zero_add, drawnTexts]
  cases hviolation : (Health.ofItems items).firstViolation with
  | some notice =>
      exact (Text.lineFeeds_join_eq_zero_iff _).mpr fun line hline => (Notice.noteLine_fixed hline).1
  | none => exact ((Health.firstViolation_eq_none_iff items).mp hviolation).lineFeeds_lines hcolor

theorem lineFeeds_render {style : Style} (hstyle : style.validate = .ok ()) (items : List Item) :
    lineFeeds (ofItems style items).render =
      (ofItems style items).lineCount + lineFeeds (String.join (drawnTexts items)) := by
  have hclose : lineFeeds "@enduml" = 0 := by decide
  rw [render_eq_lines, Text.lineFeeds_append, Text.lineFeeds_join_lines, length_lines, lineFeeds_lines hstyle, hclose,
    Nat.add_zero]

end Diagram

-- The line that ends a document stands at its end and nowhere before.
def ClosesOnce (document : String) : Prop :=
  ∃ before, Text.segments '\n' document = before ++ ["@enduml"] ∧ "@enduml" ∉ before

-- With an accepted style a document has the lines of its structure, and ends once, exactly when no
-- event, guard, effect or behaviour that is drawn has a line feed. Names and the style never add any.
theorem lineFeeds_render_iff (site : Style) (items : List Item) (hsite : site.validate = .ok ()) :
    let diagram := Diagram.ofItems (Style.standard.withSite site) items
    lineFeeds diagram.render = diagram.lineCount + lineFeeds (String.join (drawnTexts items)) ∧
      (lineFeeds diagram.render = diagram.lineCount ∧ ClosesOnce diagram.render ↔
        ∀ text ∈ drawnTexts items, '\n' ∉ text.toList) := by
  intro diagram
  have hstyle := Style.validate_withSite Style.validate_standard hsite
  have hrender := Diagram.lineFeeds_render hstyle items
  refine ⟨hrender, ?_⟩
  rw [← Text.lineFeeds_join_eq_zero_iff]
  constructor
  · rintro ⟨hcount, -⟩
    exact Nat.add_eq_left.mp (hrender.symm.trans hcount)
  · intro hzero
    refine ⟨by rw [hrender, hzero, Nat.add_zero], diagram.lines, ?_, diagram.close_notMem_lines⟩
    have hlines : lineFeeds (String.join diagram.lines) = 0 := (Diagram.lineFeeds_lines hstyle items).trans hzero
    rw [diagram.render_eq_lines]
    exact Text.segments_join_lines ((Text.lineFeeds_join_eq_zero_iff _).mp hlines) (by decide)

-- A model with text in every place, styled by a site.
def spokenTexts : List Item :=
  [{ name := Name.initial
     attached := some true
     transitions := [{ next := some "A", event := some "line\nfeed", guard := some "g", effect := some "f" }] },
    { name := "A"
      transitions := [{ next := some "B", event := some "e", guard := some "@enduml", effect := some "f" },
        { event := some "\n" }]
      behavior := { entry := some "x", activity := some "@enduml" }
      click := some { kind := some (.block .changeState), number := some 0 } },
    { behavior := { exit := some "\n" } }]

def serifStyle : Style where
  document := .object [("font", .object [("family", .string "Serif")])]

theorem lineFeeds_render_spokenTexts :
    serifStyle.validate = .ok () ∧
      lineFeeds (Diagram.ofItems (Style.standard.withSite serifStyle) spokenTexts).render = 15 ∧
      ClosesOnce (Diagram.ofItems (Style.standard.withSite serifStyle) spokenTexts).render := by
  have hvalid : serifStyle.validate = .ok () := rfl
  obtain ⟨-, hiff⟩ := lineFeeds_render_iff serifStyle spokenTexts hvalid
  obtain ⟨hcount, hcloses⟩ := hiff.mpr (by decide +kernel)
  exact ⟨hvalid, hcount.trans (by decide +kernel), hcloses⟩

-- An effect that closes the document before its end.
def closingEffect : List Item :=
  [{ name := Name.initial
     attached := some true
     transitions := [{ next := some "A", effect := some "x\n@enduml" }] }]

theorem closingEffect_breaks :
    (Health.ofItems closingEffect).firstViolation = none ∧
      (Diagram.ofItems .standard closingEffect).render =
        "@startuml\nskinparam defaultFontName \"Noto Sans JP\"\nstate A\n[*] --> A : / x\n@enduml\n@enduml" ∧
      lineFeeds (Diagram.ofItems .standard closingEffect).render ≠
        (Diagram.ofItems .standard closingEffect).lineCount ∧
      ¬ClosesOnce (Diagram.ofItems .standard closingEffect).render := by
  refine ⟨by decide, by decide +kernel, by decide +kernel, ?_⟩
  have hsegments : Text.segments '\n' (Diagram.ofItems .standard closingEffect).render =
      ["@startuml", "skinparam defaultFontName \"Noto Sans JP\"", "state A", "[*] --> A : / x", "@enduml"] ++
        ["@enduml"] := by decide +kernel
  rintro ⟨before, hbefore, hclose⟩
  rw [hsegments] at hbefore
  rw [← List.append_cancel_right hbefore] at hclose
  simp at hclose

end Statechart
