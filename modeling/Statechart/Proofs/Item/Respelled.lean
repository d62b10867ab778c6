import Mathlib.Logic.Relation
import Statechart.Diagram.Basic
import Statechart.Json.Printer
import Statechart.Proofs.Item.Noise
import Statechart.Proofs.Text.Numeral

namespace Statechart

namespace Json.Number

-- A number that is no whole one is not written in digits alone.
theorem exists_mark_layout (d : Decimal) : ∃ c ∈ layout d, c = '.' ∨ c = 'e' := by
  unfold layout
  dsimp only
  split
  · refine ⟨'.', ?_, .inl rfl⟩
    split
    · simp
    · split <;> simp
  · exact ⟨'e', by simp, .inr rfl⟩

theorem exists_mark_realChars (x : Binary64) : ∃ c ∈ realChars x, c = '.' ∨ c = 'e' := by
  have hmagnitude : ∃ c ∈ (if x.isZero then ['0', '.', '0'] else layout x.shortest), c = '.' ∨ c = 'e' := by
    split
    · exact ⟨'.', by simp, .inl rfl⟩
    · exact exists_mark_layout x.shortest
  obtain ⟨c, hc, hmark⟩ := hmagnitude
  refine ⟨c, ?_, hmark⟩
  unfold realChars
  dsimp only
  split
  · exact List.mem_cons_of_mem '-' hc
  · exact hc

-- The text of a number is a numeral for the whole numbers that are an index, and for no others.
theorem readIndex_text (n : Number) : Text.readIndex n.text = Payload.index? (.number n) := by
  cases n with
  | natural value => exact Text.readIndex_decimal value
  | negative below =>
      have hsign : '-' ∈ (negative below).text.toList := by simp [text, chars]
      exact Text.readIndex_eq_none_of_mem hsign (by decide) (by decide) (by decide)
  | real value =>
      obtain ⟨c, hc, hmark⟩ := exists_mark_realChars value
      have hmem : c ∈ (real value).text.toList := by rwa [text, String.toList_ofList]
      rcases hmark with rfl | rfl
      · exact Text.readIndex_eq_none_of_mem hmem (by decide) (by decide) (by decide)
      · exact Text.readIndex_eq_none_of_mem hmem (by decide) (by decide) (by decide)

end Json.Number

namespace Payload

-- The scalars that have a text without being one.
def isBare : Json → Bool
  | .bool _ | .number _ => true
  | .null | .string _ | .array _ | .object _ => false

theorem text?_string_compact {scalar : Json} (h : isBare scalar = true) :
    text? (.string scalar.compact) = text? scalar := by
  match scalar with
  | .number n => rfl
  | .bool true => rfl
  | .bool false => rfl

-- As an index they say in writing what they say without.
theorem index?_string_compact {scalar : Json} (h : isBare scalar = true) :
    index? (.string scalar.compact) = index? scalar := by
  match scalar with
  | .number n => exact n.readIndex_text
  | .bool true => decide
  | .bool false => decide

-- The keys of an object at a place at which it does not matter whether a scalar is put in quotes: those of
-- the texts, and that of the index.
def Place.spokenKeys (place : Place) : List String :=
  match place with
  | .click => "number" :: place.textKeys
  | _ => place.textKeys

-- Two documents at a place of which the second has a text where the first has a number or a boolean. The
-- last two constructors reach any depth.
inductive Respelled : Place → Json → Json → Prop
  | scalar {place : Place} (front back : Json.Members) {key : String} {value : Json} (hkey : key ∈ place.spokenKeys)
      (hvalue : isBare value = true) :
      Respelled place (.object (front ++ (key, value) :: back))
        (.object (front ++ (key, .string value.compact) :: back))
  | element {place : Place} (front back : List Json) {value other : Json} (h : Respelled place.element value other) :
      Respelled place (.array (front ++ value :: back)) (.array (front ++ other :: back))
  | member {place : Place} (front back : Json.Members) {key : String} {value other : Json}
      (h : Respelled (place.member key) value other) :
      Respelled place (.object (front ++ (key, value) :: back)) (.object (front ++ (key, other) :: back))

namespace Respelled

variable {place : Place} {value other : Json}

theorem bothNested (h : Respelled place value other) : BothNested value other := by
  cases h
  case element => exact .array _ _
  all_goals exact .object _ _

-- What is read at a key is the same if it does not tell a scalar that is spoken there from its text, nor
-- documents that are respelled inside.
theorem read_get?_eq {α : Type} (h : Respelled place value other) (key : String) (read : Option Json → α)
    (hscalar : key ∈ place.spokenKeys → ∀ scalar, isBare scalar = true →
      read (some scalar) = read (some (.string scalar.compact)))
    (hinner : ∀ value other, Respelled (place.member key) value other → read (some value) = read (some other)) :
    read (value.get? key) = read (other.get? key) := by
  have hchange {front back : Json.Members} {changed : String} {old new : Json}
      (hread : key = changed → read (some old) = read (some new)) :
      read (Table.get? (front ++ (changed, old) :: back) key) =
        read (Table.get? (front ++ (changed, new) :: back) key) := by
    rcases get?_change front back changed key old new with ⟨rfl, hold, hnew⟩ | hsame
    · rw [hold, hnew]
      exact hread rfl
    · rw [hsame]
  cases h with
  | scalar front back hspoken hvalue => exact hchange fun hkey => hscalar (hkey ▸ hspoken) _ hvalue
  | element front back h => rfl
  | member front back h => exact hchange fun hkey => hinner _ _ (hkey ▸ h)

theorem textAt_eq (h : Respelled place value other) (key : String) : textAt value key = textAt other key :=
  h.read_get?_eq key (·.bind text?) (fun _ _ hbare => (text?_string_compact hbare).symm) fun _ _ hinner =>
    hinner.bothNested.text?_eq

-- No scalar is spoken where a record is read.
theorem recordAt_map_eq {α : Type} (h : Respelled place value other) (key : String) (read : Json → α)
    (hkey : key ∉ place.spokenKeys)
    (hinner : ∀ value other, Respelled (place.member key) value other → read value = read other) :
    (recordAt value key).map read = (recordAt other key).map read := by
  refine h.read_get?_eq key (fun found => (found.filter Json.isObject).map read) (fun hspoken => absurd hspoken hkey) ?_
  intro value other h
  simp [Option.filter, h.bothNested.isObject_eq, apply_ite, hinner _ _ h]

theorem transition_eq (h : Respelled .transition value other) : transition value = transition other := by
  simp only [transition, h.textAt_eq]

theorem behavior_eq (h : Respelled .behavior value other) : behavior value = behavior other := by
  simp only [behavior, h.textAt_eq]

theorem click_eq (h : Respelled .click value other) : click value = click other := by
  have hnumber : (value.get? "number").bind index? = (other.get? "number").bind index? :=
    h.read_get?_eq "number" (·.bind index?) (fun _ _ hbare => (index?_string_compact hbare).symm)
      fun _ _ hinner => hinner.bothNested.index?_eq
  simp only [click, h.textAt_eq, hnumber]

theorem condition_eq (h : Respelled .attachment value other) : condition value = condition other := by
  refine h.read_get?_eq "condition" (fun found => (found.map truthy).getD false)
    (fun hspoken => absurd hspoken (by decide)) ?_
  intro value other h
  exact congrArg (fun b => (some b).getD false) h.bothNested.truthy_eq

theorem entries_eq (h : Respelled .transitions value other) : entries value = entries other := by
  cases h with
  | element front back h => simp only [entries, List.map_append, List.map_cons, transition_eq h]
  | _ => rfl

theorem transitions_eq (h : Respelled .item value other) : transitions value = transitions other := by
  rw [transitions_eq_entries, transitions_eq_entries]
  refine h.read_get?_eq "transition" (fun found => (found.map entries).getD [])
    (fun hspoken => absurd hspoken (by decide)) ?_
  intro value other h
  exact congrArg (fun ts => (some ts).getD []) (entries_eq h)

theorem item_eq (h : Respelled .item value other) : item value = item other := by
  have hattached : (value.get? "myself").map condition = (other.get? "myself").map condition :=
    h.read_get?_eq "myself" (·.map condition) (fun hspoken => absurd hspoken (by decide))
      fun _ _ hinner => congrArg some (condition_eq hinner)
  have hcurrent : ((value.get? "current").map isPresent).getD false =
      ((other.get? "current").map isPresent).getD false :=
    h.read_get?_eq "current" (fun found => (found.map isPresent).getD false)
      (fun hspoken => absurd hspoken (by decide)) fun _ _ hinner => hinner.bothNested.isPresent_eq
  have hbehavior := h.recordAt_map_eq "behavior" behavior (by decide) fun _ _ => behavior_eq
  have hclick := h.recordAt_map_eq "click" click (by decide) fun _ _ => click_eq
  have hinvalid := h.recordAt_map_eq "invalid" (fun i => (textAt i "condition").getD "") (by decide)
    fun _ _ hinner => congrArg (·.getD "") (hinner.textAt_eq "condition")
  simp only [item, Item.mk.injEq]
  exact ⟨congrArg (·.getD "") (h.textAt_eq "state"), h.transitions_eq, congrArg (·.getD {}) hbehavior, hattached,
    hcurrent, hclick, hinvalid⟩

theorem read_eq (h : Respelled .payload value other) : read value = read other := by
  cases h with
  | element front back h =>
      simp only [read, List.filter_append, List.filter_cons, h.bothNested.isObject_eq]
      split <;> simp [item_eq h]
  | _ => rfl

end Respelled

theorem read_eq_of_respelled {value other : Json} (h : Relation.EqvGen (Respelled .payload) value other) :
    read value = read other :=
  congrArg (Quot.lift read fun _ _ => Respelled.read_eq) (Quot.eqvGen_sound h)

-- It does not matter whether a scalar is written with quotes or without, wherever a text or an index is
-- read: in a payload the one may be put for the other in any number of places, at any depth.
theorem read_respelled :
    (∀ scalar, isBare scalar = true →
        text? (.string scalar.compact) = text? scalar ∧ index? (.string scalar.compact) = index? scalar) ∧
      ∀ entries other, Relation.EqvGen (Respelled .payload) (.array entries) other →
        ∃ items, read (.array entries) = .ok items ∧ read other = .ok items ∧
          ∀ style, (read other).map (Diagram.ofItems style) = .ok (Diagram.ofItems style items) := by
  refine ⟨fun scalar hbare => ⟨text?_string_compact hbare, index?_string_compact hbare⟩, fun entries other h => ?_⟩
  have hread : read other = read (.array entries) := (read_eq_of_respelled h).symm
  exact ⟨_, rfl, hread, fun style => congrArg (·.map (Diagram.ofItems style)) hread⟩

-- A state whose second transition is clicked on.
def secondClicked (name target number : Json) : Json :=
  .object
    [("state", name), ("transition", .array [.object [], .object [("nextState", target)]]),
      ("click", .object [("number", number), ("type", .string "changeStateType")])]

theorem read_respelled_secondClicked :
    let yes := Json.bool true
    let twelve := Json.number (.natural 12)
    let one := Json.number (.natural 1)
    let bare := Json.array [secondClicked yes twelve one]
    let quoted := Json.array [secondClicked (.string "true") (.string "12") (.string "1")]
    Relation.EqvGen (Respelled .payload) bare quoted ∧
      ∃ items, read bare = .ok items ∧ read quoted = .ok items ∧
        items.map Focus.clickedTarget? = [some "12"] := by
  intro yes twelve one bare quoted
  have hname : Respelled .payload bare (.array [secondClicked (.string "true") twelve one]) :=
    .element [] [] (.scalar [] _ (by decide) rfl)
  have htarget : Respelled .payload (.array [secondClicked (.string "true") twelve one])
      (.array [secondClicked (.string "true") (.string "12") one]) :=
    .element [] [] (.member [_] _ (.element [_] [] (.scalar [] [] (by decide) rfl)))
  have hnumber : Respelled .payload (.array [secondClicked (.string "true") (.string "12") one]) quoted :=
    .element [] [] (.member [_, _] [] (.scalar [] _ (by decide) rfl))
  have hquoted : Relation.EqvGen (Respelled .payload) bare quoted :=
    .trans _ _ _ (.rel _ _ hname) (.trans _ _ _ (.rel _ _ htarget) (.rel _ _ hnumber))
  obtain ⟨items, hbare, hsame, -⟩ := read_respelled.2 _ quoted hquoted
  refine ⟨hquoted, items, hbare, hsame, ?_⟩
  obtain rfl := Except.ok.inj hbare
  decide +kernel

end Payload

end Statechart
