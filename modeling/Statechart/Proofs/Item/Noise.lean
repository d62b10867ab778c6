import Statechart.Item.Payload
import Statechart.Proofs.Json.Overlay

namespace Statechart.Payload

def isArray : Json → Bool
  | .array _ => true
  | _ => false

-- What a document in a payload is read as.
inductive Place where
  | payload
  | item
  | transitions
  | transition
  | behavior
  | attachment
  | click
  | warning
  | elsewhere

namespace Place

-- The keys that are read of an object at a place.
def keys : Place → List String
  | .item => ["state", "transition", "behavior", "myself", "current", "click", "invalid"]
  | .transition => ["nextState", "event", "guard", "effect"]
  | .behavior => ["entry", "do", "exit"]
  | .attachment | .warning => ["condition"]
  | .click => ["type", "number", "stateName"]
  | .payload | .transitions | .elsewhere => []

-- Those of them that a text is read at.
def textKeys : Place → List String
  | .item => ["state"]
  | .transition => ["nextState", "event", "guard", "effect"]
  | .behavior => ["entry", "do", "exit"]
  | .warning => ["condition"]
  | .click => ["type", "stateName"]
  | .payload | .transitions | .attachment | .elsewhere => []

-- Where a member of an object leads.
def member : Place → String → Place
  | .item, "transition" => .transitions
  | .item, "behavior" => .behavior
  | .item, "myself" => .attachment
  | .item, "click" => .click
  | .item, "invalid" => .warning
  | _, _ => .elsewhere

-- Where the elements of an array stand.
def element : Place → Place
  | .payload => .item
  | .transitions => .transition
  | _ => .elsewhere

-- A value that says at a key what a missing one does: null, or an object or array in place of a text.
def Idle (place : Place) (key : String) (value : Json) : Prop :=
  key ∈ place.keys ∧ value = .null ∨ key ∈ place.textKeys ∧ (value.isObject = true ∨ isArray value = true)

end Place

-- Two documents at a place that differ by one piece of noise. The last two constructors reach any depth.
inductive Noise : Place → Json → Json → Prop
  -- an element of the payload that is no item
  | stray (front back : List Json) {entry : Json} (h : entry.isObject = false) :
      Noise .payload (.array (front ++ back)) (.array (front ++ entry :: back))
  -- another order of the members of an object, of which no two have one key
  | reordered {place : Place} {members others : Json.Members} (hnodup : (Table.keys members).Nodup)
      (h : members.Perm others) : Noise place (.object members) (.object others)
  -- a member that is not read
  | unread {place : Place} (front back : Json.Members) {key : String} (value : Json) (h : key ∉ place.keys) :
      Noise place (.object (front ++ back)) (.object (front ++ (key, value) :: back))
  -- a member that is read, but says nothing
  | idle {place : Place} (front back : Json.Members) {key : String} {value : Json} (h : place.Idle key value)
      (hmissing : key ∉ Table.keys (front ++ back)) :
      Noise place (.object (front ++ back)) (.object (front ++ (key, value) :: back))
  -- a transition that is no object
  | entry (front back : List Json) {entry : Json} (h : entry.isObject = false) :
      Noise .transitions (.array (front ++ entry :: back)) (.array (front ++ .object [] :: back))
  | element {place : Place} (front back : List Json) {value other : Json} (h : Noise place.element value other) :
      Noise place (.array (front ++ value :: back)) (.array (front ++ other :: back))
  | member {place : Place} (front back : Json.Members) {key : String} {value other : Json}
      (h : Noise (place.member key) value other) :
      Noise place (.object (front ++ (key, value) :: back)) (.object (front ++ (key, other) :: back))

-- What noise in an object leaves of a member that is read there.
inductive MemberNoise (place : Place) (key : String) : Option Json → Option Json → Prop
  | same (found : Option Json) : MemberNoise place key found found
  | idle {value : Json} (h : place.Idle key value) : MemberNoise place key none (some value)
  | inner {value other : Json} (h : Noise (place.member key) value other) :
      MemberNoise place key (some value) (some other)

section Lookup

variable {front back : Json.Members} {key wanted : String}

theorem get?_insert_of_ne (value : Json) (h : wanted ≠ key) :
    Table.get? (front ++ (key, value) :: back) wanted = Table.get? (front ++ back) wanted := by
  rw [Table.get?_append, Table.get?_append, Table.get?_cons, if_neg h]

theorem get?_insert_self (value : Json) :
    Table.get? (front ++ (key, value) :: back) key = (Table.get? front key).or (some value) := by
  rw [Table.get?_append, Table.get?_cons, if_pos rfl]

-- A new member is seen at its own key, and nowhere else.
theorem get?_insert_new (value : Json) (hmissing : key ∉ Table.keys (front ++ back)) :
    Table.get? (front ++ (key, value) :: back) wanted =
      if wanted = key then some value else Table.get? (front ++ back) wanted := by
  by_cases hwanted : wanted = key
  · have hfront : key ∉ Table.keys front := fun hm => hmissing (by simp [Table.keys] at hm ⊢; exact .inl hm)
    rw [if_pos hwanted, hwanted, get?_insert_self, (Table.get?_eq_none_iff front key).mpr hfront, Option.none_or]
  · rw [if_neg hwanted, get?_insert_of_ne value hwanted]

-- Another value for a member is seen at its key, if that leads to the member. Of a key that stands there
-- twice the first is read.
theorem get?_change (front back : Json.Members) (key wanted : String) (old new : Json) :
    (wanted = key ∧ Table.get? (front ++ (key, old) :: back) wanted = some old ∧
        Table.get? (front ++ (key, new) :: back) wanted = some new) ∨
      Table.get? (front ++ (key, old) :: back) wanted = Table.get? (front ++ (key, new) :: back) wanted := by
  by_cases hwanted : wanted = key
  · subst hwanted
    rw [get?_insert_self, get?_insert_self]
    cases Table.get? front wanted with
    | none => exact .inl ⟨rfl, rfl, rfl⟩
    | some found => exact .inr rfl
  · right
    rw [get?_insert_of_ne old hwanted, get?_insert_of_ne new hwanted]

end Lookup

-- Two arrays, or two objects.
inductive BothNested : Json → Json → Prop
  | array (elements others : List Json) : BothNested (.array elements) (.array others)
  | object (members others : Json.Members) : BothNested (.object members) (.object others)

namespace BothNested

variable {value other : Json}

-- No scalar is read of either.
theorem text?_eq (h : BothNested value other) : text? value = text? other := by
  cases h <;> rfl

theorem truthy_eq (h : BothNested value other) : truthy value = truthy other := by
  cases h <;> rfl

theorem index?_eq (h : BothNested value other) : index? value = index? other := by
  cases h <;> rfl

theorem isPresent_eq (h : BothNested value other) : isPresent value = isPresent other := by
  cases h <;> rfl

theorem isObject_eq (h : BothNested value other) : value.isObject = other.isObject := by
  cases h <;> rfl

end BothNested

variable {place : Place} {value other : Json} {key : String}

theorem Noise.get? (h : Noise place value other) (key : String) (hread : key ∈ place.keys) :
    MemberNoise place key (value.get? key) (other.get? key) := by
  cases h with
  | stray front back h => exact .same none
  | entry front back h => exact .same none
  | element front back h => exact .same none
  | reordered hnodup h =>
      rw [Json.get?_object, Json.get?_object, Table.get?_eq_of_perm h hnodup]
      exact .same _
  | @unread _ front back new value h =>
      have hne : key ≠ new := fun heq => h (heq ▸ hread)
      rw [Json.get?_object, Json.get?_object, get?_insert_of_ne value hne]
      exact .same _
  | @idle _ front back new value h hmissing =>
      rw [Json.get?_object, Json.get?_object, get?_insert_new value hmissing]
      by_cases hnew : key = new
      · subst hnew
        rw [if_pos rfl, (Table.get?_eq_none_iff _ key).mpr hmissing]
        exact .idle h
      · rw [if_neg hnew]
        exact .same _
  | @member _ front back changed value other h =>
      rw [Json.get?_object, Json.get?_object]
      rcases get?_change front back changed key value other with ⟨rfl, hvalue, hother⟩ | hsame
      · rw [hvalue, hother]
        exact .inner h
      · rw [hsame]
        exact .same _

-- There is noise in arrays and objects only.
theorem Noise.bothNested (h : Noise place value other) : BothNested value other := by
  cases h
  case stray | entry | element => exact .array _ _
  all_goals exact .object _ _

namespace MemberNoise

variable {found left : Option Json}

theorem bind_text?_eq (h : MemberNoise place key found left) : found.bind text? = left.bind text? := by
  cases h with
  | same => rfl
  | inner h => exact h.bothNested.text?_eq
  | @idle value h =>
      obtain ⟨-, rfl⟩ | ⟨-, hvalue⟩ := h
      · rfl
      · cases value <;> simp_all [Json.isObject, isArray, text?]

-- Where no text is read, a member that says nothing is null.
theorem read_eq {α : Type} (h : MemberNoise place key found left) (hkey : key ∉ place.textKeys)
    (read : Option Json → α) (hnull : read none = read (some .null))
    (hinner : ∀ value other, Noise (place.member key) value other → read (some value) = read (some other)) :
    read found = read left := by
  cases h with
  | same => rfl
  | inner h => exact hinner _ _ h
  | idle h =>
      obtain ⟨-, rfl⟩ | ⟨htext, -⟩ := h
      · exact hnull
      · exact absurd htext hkey

end MemberNoise

theorem Noise.textAt_eq (h : Noise place value other) (key : String) (hread : key ∈ place.keys) :
    textAt value key = textAt other key :=
  (h.get? key hread).bind_text?_eq

-- What is read of a record is told by what is read inside it.
theorem Noise.recordAt_map_eq {α : Type} (h : Noise place value other) (key : String) (hread : key ∈ place.keys)
    (hkey : key ∉ place.textKeys) (read : Json → α)
    (hinner : ∀ value other, Noise (place.member key) value other → read value = read other) :
    (recordAt value key).map read = (recordAt other key).map read := by
  refine (h.get? key hread).read_eq hkey (fun found => (found.filter Json.isObject).map read) rfl ?_
  intro value other h
  simp [Option.filter, h.bothNested.isObject_eq, apply_ite, hinner _ _ h]

theorem Noise.transition_eq (h : Noise .transition value other) : transition value = transition other := by
  simp only [transition]
  rw [h.textAt_eq "nextState" (by decide), h.textAt_eq "event" (by decide), h.textAt_eq "guard" (by decide),
    h.textAt_eq "effect" (by decide)]

theorem Noise.behavior_eq (h : Noise .behavior value other) : behavior value = behavior other := by
  simp only [behavior]
  rw [h.textAt_eq "entry" (by decide), h.textAt_eq "do" (by decide), h.textAt_eq "exit" (by decide)]

theorem Noise.click_eq (h : Noise .click value other) : click value = click other := by
  have hnumber : (value.get? "number").bind index? = (other.get? "number").bind index? :=
    (h.get? "number" (by decide)).read_eq (by decide) (·.bind index?) rfl fun _ _ hinner => hinner.bothNested.index?_eq
  simp only [click]
  rw [h.textAt_eq "type" (by decide), h.textAt_eq "stateName" (by decide), hnumber]

-- What is read of the record that attaches an item.
def condition (j : Json) : Bool :=
  ((j.get? "condition").map truthy).getD false

theorem Noise.condition_eq (h : Noise .attachment value other) : condition value = condition other := by
  refine (h.get? "condition" (by decide)).read_eq (by decide) (fun found => (found.map truthy).getD false) rfl ?_
  intro value other h
  exact congrArg (fun b => (some b).getD false) h.bothNested.truthy_eq

-- A transition that is no object reads like an empty one.
theorem transition_of_not_isObject {entry : Json} (h : entry.isObject = false) : transition entry = {} := by
  cases entry <;> first | rfl | simp [Json.isObject] at h

-- The transitions of an array; anything else has none.
def entries : Json → List Transition
  | .array entries => entries.map transition
  | _ => []

theorem transitions_eq_entries (j : Json) : transitions j = ((j.get? "transition").map entries).getD [] := by
  unfold transitions
  cases hfound : j.get? "transition" with
  | none => rfl
  | some value => cases value <;> rfl

theorem Noise.entries_eq (h : Noise .transitions value other) : entries value = entries other := by
  cases h with
  | @entry front back entry h =>
      have hempty : transition (.object []) = {} := rfl
      simp only [entries, List.map_append, List.map_cons, transition_of_not_isObject h, hempty]
  | element front back h => simp only [entries, List.map_append, List.map_cons, Noise.transition_eq h]
  | _ => rfl

theorem Noise.transitions_eq (h : Noise .item value other) : transitions value = transitions other := by
  rw [transitions_eq_entries, transitions_eq_entries]
  refine (h.get? "transition" (by decide)).read_eq (by decide) (fun found => (found.map entries).getD []) rfl ?_
  intro value other h
  exact congrArg (fun ts => (some ts).getD []) h.entries_eq

end Statechart.Payload

namespace Statechart

-- An item as a diagram needs it: not attached and not said to be attached are the same.
def Item.settled (item : Item) : Item :=
  { item with attached := item.attached.filter id }

namespace Payload

variable {value other : Json}

theorem Noise.item_eq (h : Noise .item value other) : (item value).settled = (item other).settled := by
  have hattached : ((value.get? "myself").map condition).filter id = ((other.get? "myself").map condition).filter id :=
    (h.get? "myself" (by decide)).read_eq (by decide) (fun found => (found.map condition).filter id) rfl
      fun _ _ hinner => congrArg (fun b => (some b).filter id) hinner.condition_eq
  have hcurrent : ((value.get? "current").map isPresent).getD false =
      ((other.get? "current").map isPresent).getD false :=
    (h.get? "current" (by decide)).read_eq (by decide) (fun found => (found.map isPresent).getD false) rfl
      fun _ _ hinner => congrArg (fun b => (some b).getD false) hinner.bothNested.isPresent_eq
  have hbehavior := h.recordAt_map_eq "behavior" (by decide) (by decide) behavior fun _ _ => Noise.behavior_eq
  have hclick := h.recordAt_map_eq "click" (by decide) (by decide) click fun _ _ => Noise.click_eq
  have hinvalid := h.recordAt_map_eq "invalid" (by decide) (by decide) (fun i => (textAt i "condition").getD "")
    fun _ _ hinner => congrArg (·.getD "") (hinner.textAt_eq "condition" (by decide))
  simp only [item, Item.settled, Item.mk.injEq]
  exact ⟨congrArg (·.getD "") (h.textAt_eq "state" (by decide)), h.transitions_eq, congrArg (·.getD {}) hbehavior,
    hattached, hcurrent, hclick, hinvalid⟩

-- The items of a payload, settled, are the same with and without noise.
theorem Noise.read_eq (h : Noise .payload value other) :
    (read value).map (List.map Item.settled) = (read other).map (List.map Item.settled) := by
  cases h with
  | stray front back h => simp [read, h]
  | element front back h =>
      simp only [read, List.filter_append, List.filter_cons, h.bothNested.isObject_eq]
      split <;> simp [Except.map, Noise.item_eq h]
  | _ => rfl

end Payload

end Statechart
