import Statechart.Proofs.Diagram.Opening

namespace Statechart

namespace Name

-- The final pseudostate is written as no name is, so names are told apart by how they are written.
theorem token_injective {name other : String} (hname : isValid name = true) (hother : isValid other = true)
    (h : token name = token other) : name = other := by
  have hne {n : String} (hn : isValid n = true) : n ≠ "[*]" := by
    rintro rfl
    exact absurd hn (by decide)
  unfold token at h
  split at h <;> split at h
  · rename_i hfinal hfinal'
    exact hfinal.trans hfinal'.symm
  · exact absurd h.symm (hne hother)
  · exact absurd h (hne hname)
  · exact h

theorem notMem_token {name : String} (h : isValid name = true) {c : Char} (hc : isAllowed c = false)
    (hsign : c ≠ '#') (hfinal : c ∉ "[*]".toList) : c ∉ (token name).toList := by
  unfold token
  split
  · exact hfinal
  · exact notMem_of_isValid h hc hsign

-- Only what is written for the final pseudostate opens with a bracket.
theorem token_begins_iff {name : String} (h : isValid name = true) (front : String) {back : String}
    (hback : back.toList.head? ≠ some '[') :
    (∃ rest, front ++ token name ++ back = front ++ "[*]" ++ rest) ↔ name = final := by
  constructor
  · rintro ⟨rest, hrest⟩
    by_contra hname
    have htexts : name.toList ++ back.toList = '[' :: '*' :: ']' :: rest.toList := by
      have := congrArg String.toList hrest
      simpa [token, hname] using this
    have hbracket : '[' ∉ name.toList := notMem_of_isValid h (by decide) (by decide)
    cases hchars : name.toList with
    | nil =>
        rw [hchars, List.nil_append] at htexts
        exact hback (congrArg List.head? htexts)
    | cons c cs =>
        rw [hchars] at htexts hbracket
        exact hbracket (by simp [(List.cons.inj htexts).1])
  · rintro rfl
    exact ⟨back, rfl⟩

end Name

-- A plain arrow and a coloured one part at their second character, whatever the colour.
theorem Arrow.render_append_inj {color : String} {arrow bow : Arrow} {rest tail : List Char}
    (h : (arrow.render color).toList ++ rest = (bow.render color).toList ++ tail) : arrow = bow ∧ rest = tail := by
  cases arrow <;> cases bow
  case ordinary.ordinary => exact ⟨rfl, List.append_cancel_left h⟩
  case colored.colored => exact ⟨rfl, List.append_cancel_left h⟩
  all_goals simp [render] at h

namespace Statement

-- Statements whose first words have no blank in them are written alike only if these words are the same.
theorem head_eq_of_render_eq {color : String} {s t : Statement} (hs : ' ' ∉ s.word.toList) (ht : ' ' ∉ t.word.toList)
    (h : s.render color = t.render color) : s.word = t.word ∧ s.mark = t.mark := by
  obtain ⟨rest, hrest⟩ := s.render_head color
  obtain ⟨tail, htail⟩ := t.render_head color
  have htexts : s.word.toList ++ ' ' :: s.mark :: rest = t.word.toList ++ ' ' :: t.mark :: tail := by
    rw [← hrest, ← htail, h]
  obtain ⟨hword, -, hbehind⟩ := Text.append_cons_inj (p := (· ≠ ' ')) (fun _ hc heq => hs (heq ▸ hc))
    (fun _ hc heq => ht (heq ▸ hc)) (by simp) (by simp) htexts
  exact ⟨String.toList_inj.mp hword, (List.cons.inj hbehind).1⟩

-- What stands behind the target of an edge.
def ending (label : Option String) : List Char :=
  ((label.map fun l => " :" ++ l).getD "").toList ++ ['\n']

theorem ending_injective {label text : Option String} (h : ending label = ending text) : label = text := by
  cases label <;> cases text
  case none.none => rfl
  case some.some l m => simpa [ending, String.toList_inj] using h
  all_goals simp [ending] at h

theorem ending_head (label : Option String) : ∃ c rest, ending label = c :: rest ∧ (c = ' ' ∨ c = '\n') := by
  cases label with
  | none => exact ⟨'\n', [], rfl, .inr rfl⟩
  | some l => exact ⟨' ', ':' :: l.toList ++ ['\n'], by simp [ending], .inl rfl⟩

theorem toList_render_edge (color source : String) (arrow : Arrow) (target : String) (label : Option String) :
    ((edge source arrow target label).render color).toList =
      source.toList ++ ' ' :: ((arrow.render color).toList ++ ' ' :: ((Name.token target).toList ++ ending label)) := by
  simp [render, ending]

-- An edge between valid names is read back from its text: word by word up to the target, and the label
-- is whatever stands between the colon and the last line feed.
theorem edge_eq_of_render_eq {color source other target goal : String} {arrow bow : Arrow} {label text : Option String}
    (hsource : Name.isValid source = true) (hother : Name.isValid other = true) (htarget : Name.isValid target = true)
    (hgoal : Name.isValid goal = true)
    (h : (edge source arrow target label).render color = (edge other bow goal text).render color) :
    source = other ∧ target = goal ∧ arrow = bow ∧ label = text := by
  have htexts := congrArg String.toList h
  rw [toList_render_edge, toList_render_edge] at htexts
  have hblank {name : String} (hname : Name.isValid name = true) : ∀ c ∈ name.toList, c ≠ ' ' :=
    fun _ hc heq => Name.blank_notMem hname (heq ▸ hc)
  obtain ⟨hnames, -, hbehind⟩ := Text.append_cons_inj (hblank hsource) (hblank hother) (by simp) (by simp) htexts
  obtain ⟨harrows, hbehind⟩ := Arrow.render_append_inj hbehind
  -- the target ends at a blank if there is a label, and at the line feed if there is none
  have hword {name : String} (hname : Name.isValid name = true) :
      ∀ c ∈ (Name.token name).toList, ¬(c = ' ' ∨ c = '\n') := by
    rintro c hc (rfl | rfl)
    · exact Name.notMem_token hname (by decide) (by decide) (by decide) hc
    · exact Name.notMem_token hname (by decide) (by decide) (by decide) hc
  obtain ⟨c, rest, hending, hc⟩ := ending_head label
  obtain ⟨d, tail, hending', hd⟩ := ending_head text
  have htokens := (List.cons.inj hbehind).2
  rw [hending, hending'] at htokens
  obtain ⟨htoken, hcd, hrest⟩ :=
    Text.append_cons_inj (hword htarget) (hword hgoal) (not_not_intro hc) (not_not_intro hd) htokens
  refine ⟨String.toList_inj.mp hnames, Name.token_injective htarget hgoal (String.toList_inj.mp htoken), harrows, ?_⟩
  exact ending_injective (by rw [hending, hending', hcd, hrest])

theorem edge_to_final_iff (color source : String) (arrow : Arrow) (label : Option String) {target : String}
    (h : Name.isValid target = true) :
    (∃ rest, (edge source arrow target label).render color =
      source ++ " " ++ arrow.render color ++ " " ++ "[*]" ++ rest) ↔ target = Name.final := by
  have hback : (((label.map fun l => " :" ++ l).getD "") ++ "\n").toList.head? ≠ some '[' := by
    cases label <;> simp
  have hiff := Name.token_begins_iff h (source ++ " " ++ arrow.render color ++ " ") hback
  rwa [← String.append_assoc] at hiff

theorem start_to_final_iff (color : String) (arrow : Arrow) (effect : Option String) (event guard : Bool)
    {target : String} (h : Name.isValid target = true) :
    (∃ rest, (start arrow target effect event guard).render color =
      "[*] " ++ arrow.render color ++ " " ++ "[*]" ++ rest) ↔ target = Name.final := by
  have hback : (((effect.map fun e => " : / " ++ e).getD "") ++ ("\n" ++ startNote event guard)).toList.head? ≠
      some '[' := by
    cases effect <;> simp
  have hiff := Name.token_begins_iff h ("[*] " ++ arrow.render color ++ " ") hback
  rwa [← String.append_assoc, ← String.append_assoc] at hiff

end Statement

namespace Item

-- The edge for a transition of an item to a target.
def edge (item : Item) (t : Transition) (target : String) : Statement :=
  .edge item.name (.of item) target t.label?

theorem word_of_mem_startStatements {item : Item} {s : Statement} (hs : s ∈ item.startStatements) : s.word = "[*]" := by
  unfold startStatements at hs
  split at hs
  · simp at hs
  · split at hs
    · simp at hs
    · rw [List.mem_singleton.mp hs, Statement.word]

theorem head_of_mem_behaviorStatements {item : Item} {s : Statement} (hs : s ∈ item.behaviorStatements) :
    s.word = item.name ∧ s.mark = ':' := by
  obtain ⟨part, -, rfl⟩ := List.mem_map.mp hs
  exact ⟨rfl, rfl⟩

variable {item : Item} (h : Name.isValid item.name = true) (color : String) (t : Transition) (target : String)

include h

theorem render_edge_ne_start {other : Item} {s : Statement} (hs : s ∈ other.startStatements) :
    (item.edge t target).render color ≠ s.render color := by
  have hstart := word_of_mem_startStatements hs
  have hblank : ' ' ∉ s.word.toList := by
    rw [hstart]
    decide
  have hedge : ' ' ∉ (item.edge t target).word.toList := Name.blank_notMem h
  intro heq
  have hname : item.name = "[*]" := (Statement.head_eq_of_render_eq hedge hblank heq).1.trans hstart
  rw [hname] at h
  exact absurd h (by decide)

theorem render_edge_ne_behavior {other : Item} (hother : Name.isValid other.name = true) {s : Statement}
    (hs : s ∈ other.behaviorStatements) : (item.edge t target).render color ≠ s.render color := by
  obtain ⟨hword, hmark⟩ := head_of_mem_behaviorStatements hs
  have hedge : ' ' ∉ (item.edge t target).word.toList := Name.blank_notMem h
  intro heq
  have hmarks : '-' = s.mark := (Statement.head_eq_of_render_eq hedge (hword ▸ Name.blank_notMem hother) heq).2
  rw [hmark] at hmarks
  exact absurd hmarks (by decide)

-- Not even where a state is named as declarations begin: these go on with a name, and no name begins as
-- an arrow does.
theorem render_edge_ne_declaration {name : String} (hname : Name.isValid name = true) (hne : name ≠ "") :
    (item.edge t target).render color ≠ declaration name := by
  have hopens := Statement.opens color (s := item.edge t target) (Name.blank_notMem h)
  intro heq
  exact hopens.not_begins_declaration hname hne (heq ▸ List.prefix_rfl)

end Item

-- An edge between states with valid names can be read back from its text, up to how its label is made up.
-- No start, behaviour or declaration is written as an edge is, and it is the final pseudostate that an edge
-- written to `[*]` leads to.
theorem render_edge_decodes (color : String) :
    (∀ (item other : Item) (t u : Transition) (target goal : String),
      Name.isValid item.name = true → Name.isValid other.name = true → Name.isValid target = true →
        Name.isValid goal = true → (item.edge t target).render color = (other.edge u goal).render color →
          item.name = other.name ∧ target = goal ∧ Arrow.of item = Arrow.of other ∧ t.label? = u.label?) ∧
      (∀ (item : Item) (t : Transition) (target : String), Name.isValid item.name = true →
        (∀ other : Item, ∀ s ∈ other.startStatements, (item.edge t target).render color ≠ s.render color) ∧
          (∀ other : Item, Name.isValid other.name = true →
            ∀ s ∈ other.behaviorStatements, (item.edge t target).render color ≠ s.render color) ∧
          ∀ name, Name.isValid name = true → name ≠ "" → (item.edge t target).render color ≠ declaration name) ∧
      ∀ target, Name.isValid target = true →
        (∀ (item : Item) (t : Transition),
          (∃ rest, (item.edge t target).render color =
              item.name ++ " " ++ (Arrow.of item).render color ++ " " ++ "[*]" ++ rest) ↔ target = Name.final) ∧
          ∀ (arrow : Arrow) (effect : Option String) (event guard : Bool),
            (∃ rest, (Statement.start arrow target effect event guard).render color =
                "[*] " ++ arrow.render color ++ " " ++ "[*]" ++ rest) ↔ target = Name.final := by
  refine ⟨?_, ?_, ?_⟩
  · intro item other t u target goal hitem hother htarget hgoal heq
    exact Statement.edge_eq_of_render_eq hitem hother htarget hgoal heq
  · intro item t target hitem
    exact ⟨fun _ _ hs => Item.render_edge_ne_start hitem color t target hs,
      fun _ hother _ hs => Item.render_edge_ne_behavior hitem color t target hother hs,
      fun _ hname hne => Item.render_edge_ne_declaration hitem color t target hname hne⟩
  · intro target htarget
    exact ⟨fun item t => Statement.edge_to_final_iff color item.name (.of item) t.label? htarget,
      fun arrow effect event guard => Statement.start_to_final_iff color arrow effect event guard htarget⟩

-- Of a label it cannot be told whether a guard stands in it or an event that is written like one.
def bracketedEvent : Transition := { next := some Name.final, event := some "a [b]" }

def guardedEvent : Transition := { next := some Name.final, event := some "a", guard := some "b" }

-- Two edges out of a state that is named as declarations begin.
theorem render_edge_decodes_bracketedEvent :
    let item : Item := { name := "state" }
    let text := (item.edge bracketedEvent Name.final).render "blue"
    text = (item.edge guardedEvent Name.final).render "blue" ∧ bracketedEvent ≠ guardedEvent ∧
      bracketedEvent.label? = guardedEvent.label? ∧ text ≠ declaration "A" ∧
        ∃ rest, text = "state " ++ (Arrow.of item).render "blue" ++ " " ++ "[*]" ++ rest := by
  intro item text
  have hname : Name.isValid item.name = true := by decide
  have hfinal : Name.isValid Name.final = true := by decide
  have hsame : text = (item.edge guardedEvent Name.final).render "blue" := by decide
  obtain ⟨hdecodes, hothers, hends⟩ := render_edge_decodes "blue"
  obtain ⟨-, -, -, hlabel⟩ :=
    hdecodes item item bracketedEvent guardedEvent Name.final Name.final hname hname hfinal hfinal hsame
  obtain ⟨-, -, hdeclaration⟩ := hothers item bracketedEvent Name.final hname
  exact ⟨hsame, by decide, hlabel, hdeclaration "A" (by decide) (by decide),
    ((hends Name.final hfinal).1 item bracketedEvent).mpr rfl⟩

end Statechart
