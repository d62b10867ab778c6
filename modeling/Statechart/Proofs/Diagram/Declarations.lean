import Mathlib.Data.List.Nodup
import Statechart.Proofs.Diagram.Opening

namespace Statechart

-- The states that a document declares for a model: one for every name in it that is a name without
-- its markers and not reserved, where that name is first seen.
structure Declares (items : List Item) (declared : List String) : Prop where
  mem_iff (name : String) : name ∈ declared ↔
    name ≠ "" ∧ name ≠ Name.initial ∧ name ≠ Name.final ∧ ∃ raw ∈ writtenNames items, Name.plain raw = name
  firstSeen : declared.Pairwise fun a b =>
    ((writtenNames items).map Name.plain).idxOf a < ((writtenNames items).map Name.plain).idxOf b
  nodup : declared.Nodup
  shared : ∀ raw ∈ writtenNames items, Name.plain raw ≠ "" → Name.plain raw ≠ Name.initial →
    Name.plain raw ≠ Name.final → declared.count (Name.plain raw) = 1
  allowed : ∀ name ∈ declared, ∀ c ∈ name.toList, Name.isAllowed c = true
  trimmed : ∀ raw ∈ writtenNames items, Text.trim (Name.plain raw) = Name.plain raw

theorem Sound.declares {items : List Item} (h : Sound items) :
    Declares items ((states items).filter (!Name.isReserved ·)) := by
  have htrim : ∀ raw ∈ writtenNames items, declaredName raw = Name.plain raw := fun raw hraw =>
    declaredName_of_isValid (h.isValid_of_written hraw)
  have hmem (name : String) : name ∈ (states items).filter (!Name.isReserved ·) ↔
      name ≠ "" ∧ name ≠ Name.initial ∧ name ≠ Name.final ∧
        ∃ raw ∈ writtenNames items, Name.plain raw = name := by
    rw [List.mem_filter, mem_states_iff, Bool.not_eq_true', Name.isReserved_eq_false_iff]
    constructor
    · rintro ⟨⟨hne, raw, hraw, rfl⟩, hinitial, hfinal⟩
      exact ⟨hne, hinitial, hfinal, raw, hraw, (htrim raw hraw).symm⟩
    · rintro ⟨hne, hinitial, hfinal, raw, hraw, rfl⟩
      exact ⟨⟨hne, raw, hraw, htrim raw hraw⟩, hinitial, hfinal⟩
  have hfirst := h.states_firstSeen.filter (!Name.isReserved ·)
  have hnodup := nodup_of_firstSeen hfirst
  refine ⟨hmem, hfirst, hnodup, ?_, ?_, htrim⟩
  · intro raw hraw hne hinitial hfinal
    exact List.count_eq_one_of_mem hnodup ((hmem _).mpr ⟨hne, hinitial, hfinal, raw, hraw, rfl⟩)
  · intro name hn c hc
    exact h.isAllowed_of_mem_states (List.mem_filter.mp hn).1 hc

namespace Declares

variable {items : List Item} {declared : List String}

-- No sign, blank or line feed gets into a declaration by its name.
theorem seen (h : Declares items declared) {name : String} (hn : name ∈ declared) {c : Char}
    (hc : c ∈ name.toList) : c ≠ '#' ∧ Text.isBlank c = false ∧ c ≠ '\n' :=
  have hallowed := h.allowed name hn c hc
  ⟨Name.ne_of_isAllowed hallowed (by decide), Name.not_isBlank_of_isAllowed hallowed,
    Name.ne_of_isAllowed hallowed (by decide)⟩

theorem unmarked (h : Declares items declared) {name : String} (hn : name ∈ declared) :
    Name.isMarked name = false := by
  rw [← Bool.not_eq_true]
  intro hmarked
  have hsign : '#' ∈ Name.marker.toList := by decide
  exact (h.seen hn (Text.mem_of_mentions hmarked hsign)).1 rfl

-- A name brings no number sign with it, so the colour stands in a declaration only where it is put.
theorem red_iff (h : Declares items declared) {name : String} (hn : name ∈ declared) :
    "#text:red".toList <:+: (declaration name).toList ↔ Name.placeholder.toList <:+: name.toList := by
  rw [← Text.mentions_iff name, ← Name.isUndefined, declaration]
  by_cases hred : Name.isUndefined name = true
  · rw [if_pos hred]
    refine ⟨fun _ => hred, fun _ => ⟨("state " ++ name).toList, "\n".toList, ?_⟩⟩
    simp
  · rw [if_neg hred]
    refine ⟨fun hline => ?_, fun h => absurd h hred⟩
    have hsign : '#' ∈ name.toList := by
      have hm : '#' ∈ ("state " ++ name ++ "" ++ "\n").toList := hline.subset (by decide)
      simpa using hm
    exact absurd rfl (h.seen hn hsign).1

end Declares

-- The declarations of an accepted model stand between the header and the first line that declares
-- nothing. There is one for every state the model speaks of, in the order in which it does.
theorem render_declares_states (style : Style) (items : List Item)
    (h : (Health.ofItems items).firstViolation = none) :
    ∃ drawing rest, (Diagram.ofItems style items).body = .drawing drawing ∧
      (Diagram.ofItems style items).render =
        Diagram.header style.font ++
          String.join (drawing.declared.map fun name =>
            "state " ++ name ++ (if Name.placeholder.toList <:+: name.toList then "#text:red" else "") ++ "\n") ++
          rest ∧
      (∀ name, Name.isValid name = true → name ≠ "" → ¬(declaration name).toList <+: rest.toList) ∧
      Declares items drawing.declared ∧
      ∀ name ∈ drawing.declared,
        ("#text:red".toList <:+: (declaration name).toList ↔ Name.placeholder.toList <:+: name.toList) ∧
        Name.isMarked name = false ∧
        ∀ c ∈ name.toList, c ≠ '#' ∧ Text.isBlank c = false ∧ c ≠ '\n' := by
  have hsound := (Health.firstViolation_eq_none_iff items).mp h
  obtain ⟨drawing, rest, hbody, hdrawing, hrender, hopens⟩ := hsound.render_opens style
  have hdeclares : Declares items drawing.declared := by
    rw [hdrawing]
    exact hsound.declares
  have hlines : drawing.declared.map declaration = drawing.declared.map fun name =>
      "state " ++ name ++ (if Name.placeholder.toList <:+: name.toList then "#text:red" else "") ++ "\n" := by
    refine List.map_congr_left fun name _ => ?_
    simp only [declaration, Name.isUndefined, Text.mentions_iff]
  refine ⟨drawing, rest, hbody, ?_, fun name => hopens.not_begins_declaration, hdeclares, ?_⟩
  · rw [hrender, ← hlines]
  · intro name hn
    exact ⟨hdeclares.red_iff hn, hdeclares.unmarked hn, fun c hc => hdeclares.seen hn hc⟩

-- A model with a marked name, one still to be named, and a state that is only led to.
def markedStates : List Item :=
  [{ name := Name.initial, attached := some true, transitions := [{ next := some "A#FF5555" }] },
    { name := "#FF5555" },
    { name := "A", transitions := [{ next := some "B" }, { next := some Name.final }, { next := some "未定義1" }] },
    { name := "未定義#FF55551", transitions := [{ next := some "A" }] }]

theorem render_declares_markedStates :
    (Health.ofItems markedStates).firstViolation = none ∧
      ∃ drawing rest, (Diagram.ofItems .standard markedStates).body = .drawing drawing ∧
        drawing.declared = ["A", "未定義1", "B"] ∧
        (Diagram.ofItems .standard markedStates).render =
          Diagram.header "Noto Sans JP" ++ "state A\nstate 未定義1#text:red\nstate B\n" ++ rest := by
  refine ⟨by decide, ?_⟩
  obtain ⟨drawing, rest, hbody, hrender, -⟩ := render_declares_states .standard markedStates (by decide)
  obtain rfl : .ofItems markedStates (markedStates.foldl Focus.observeIndex {}) = drawing :=
    Body.drawing.inj hbody
  refine ⟨_, rest, hbody, by decide +kernel, ?_⟩
  rw [hrender]
  rfl

end Statechart
