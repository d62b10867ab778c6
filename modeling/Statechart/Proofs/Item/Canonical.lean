import Statechart.Item.Payload
import Statechart.Proofs.Json.Distinct

namespace Statechart

namespace Block

theorem ofName?_name (block : Block) : ofName? block.name = some block := by
  cases block <;> decide

theorem name_of_ofName? {name : String} {block : Block} (h : ofName? name = some block) : block.name = name := by
  simpa using List.find?_some h

end Block

namespace ClickKind

theorem ofText_eq_block {text : String} {block : Block} (h : Block.ofName? text = some block) :
    ofText text = .block block := by
  unfold ofText
  split
  · rename_i hfound
    rw [h] at hfound
    rw [Option.some.inj hfound]
  · rename_i hunknown
    rw [h] at hunknown
    simp at hunknown

theorem ofText_eq_other {text : String} (h : Block.ofName? text = none) : ofText text = .other text h := by
  unfold ofText
  split
  · rename_i hfound
    rw [h] at hfound
    simp at hfound
  · rfl

-- No kind of click is written under the name of another.
theorem ofText_text (kind : ClickKind) : ofText kind.text = kind := by
  cases kind with
  | block block => exact ofText_eq_block (Block.ofName?_name block)
  | other name unknown => exact ofText_eq_other unknown

theorem text_ofText (text : String) : (ofText text).text = text := by
  cases hname : Block.ofName? text with
  | none => rw [ofText_eq_other hname, ClickKind.text]
  | some block => rw [ofText_eq_block hname, ClickKind.text, Block.name_of_ofName? hname]

-- What is no block has the name of none.
theorem name_ne_of_other {name : String} (unknown : Block.ofName? name = none) (block : Block) : block.name ≠ name := by
  rintro rfl
  rw [Block.ofName?_name] at unknown
  simp at unknown

end ClickKind

-- The form of the items that a payload can say: numbers of clicks fit a machine word, and a kind of
-- click of its own has the name of no block.
def Item.IsWritable (item : Item) : Prop :=
  ∀ click, item.click = some click →
    (∀ number, click.number = some number → number.toNat < UInt64.size) ∧
      ∀ name unknown, click.kind = some (.other name unknown) → ∀ block : Block, block.name ≠ name

theorem Item.isWritable (item : Item) : item.IsWritable :=
  fun _ _ => ⟨fun number _ => number.toNat_lt_size, fun _ unknown _ => ClickKind.name_ne_of_other unknown⟩

namespace Json

-- The object of the fields that there are.
def record (fields : List (String × Option Json)) : Json :=
  .object (fields.filterMap fun field => field.2.map (field.1, ·))

theorem get?_record_nil (wanted : String) : (record []).get? wanted = none := rfl

theorem get?_record_cons (key : String) (value : Option Json) (rest : List (String × Option Json)) (wanted : String) :
    (record ((key, value) :: rest)).get? wanted =
      if wanted = key then value.or ((record rest).get? wanted) else (record rest).get? wanted := by
  cases value with
  | none => exact (ite_self _).symm
  | some value => exact Table.get?_cons key value _ wanted

theorem keys_record_sublist (fields : List (String × Option Json)) :
    (Table.keys (record fields).members).Sublist (Table.keys fields) := by
  induction fields with
  | nil => exact List.Sublist.refl []
  | cons field rest ih =>
      obtain ⟨key, value⟩ := field
      cases value with
      | none => exact ih.cons key
      | some value => exact ih.cons_cons key

theorem distinctKeys_record {fields : List (String × Option Json)} (hnodup : (Table.keys fields).Nodup)
    (h : ∀ field ∈ fields, ∀ value, field.2 = some value → value.DistinctKeys) : (record fields).DistinctKeys := by
  refine (distinctKeys_object_iff _).mpr ⟨hnodup.sublist (keys_record_sublist fields), fun member hm => ?_⟩
  obtain ⟨field, hfield, hmember⟩ := List.mem_filterMap.mp hm
  obtain ⟨value, hvalue, rfl⟩ := Option.map_eq_some_iff.mp hmember
  exact h field hfield value hvalue

end Json

namespace Payload

open Json (record)

def ofTransition (t : Transition) : Json :=
  record
    [("nextState", t.next.map .string), ("event", t.event.map .string), ("guard", t.guard.map .string),
      ("effect", t.effect.map .string)]

def ofBehavior (b : Behavior) : Json :=
  record [("entry", b.entry.map .string), ("do", b.activity.map .string), ("exit", b.exit.map .string)]

def ofClick (c : Click) : Json :=
  record
    [("type", c.kind.map fun kind => .string kind.text),
      ("number", c.number.map fun number => .number (.natural number)), ("stateName", c.stateName.map .string)]

-- What every item has is written even when it is empty, what an item may lack only where it is there.
def ofItem (item : Item) : Json :=
  record
    [("state", some (.string item.name)), ("transition", some (.array (item.transitions.map ofTransition))),
      ("behavior", some (ofBehavior item.behavior)),
      ("myself", item.attached.map fun attached => record [("condition", some (.bool attached))]),
      ("current", if item.current then some (record []) else none), ("click", item.click.map ofClick),
      ("invalid", item.invalid.map fun condition => record [("condition", some (.string condition))])]

-- The payload that the editor would send for these items.
def write (items : List Item) : Json :=
  .array (items.map ofItem)

theorem bind_text?_string (text : Option String) : (text.map Json.string).bind text? = text := by
  cases text <;> rfl

theorem transition_ofTransition (t : Transition) : transition (ofTransition t) = t := by
  simp [transition, textAt, ofTransition, Json.get?_record_cons, Json.get?_record_nil, bind_text?_string]

theorem behavior_ofBehavior (b : Behavior) : behavior (ofBehavior b) = b := by
  simp [behavior, textAt, ofBehavior, Json.get?_record_cons, Json.get?_record_nil, bind_text?_string]

theorem click_ofClick (c : Click) : click (ofClick c) = c := by
  have hkind : ((c.kind.map fun kind => Json.string kind.text).bind text?).map ClickKind.ofText = c.kind := by
    cases c.kind with
    | none => rfl
    | some kind => exact congrArg some kind.ofText_text
  have hnumber : (c.number.map fun number => Json.number (.natural number)).bind index? = c.number := by
    cases c.number <;> rfl
  simp [click, textAt, ofClick, Json.get?_record_cons, Json.get?_record_nil, bind_text?_string, hkind, hnumber]

-- Where each field of an item stands in its record.
theorem get?_ofItem (i : Item) :
    (ofItem i).get? "state" = some (.string i.name) ∧
      (ofItem i).get? "transition" = some (.array (i.transitions.map ofTransition)) ∧
      (ofItem i).get? "behavior" = some (ofBehavior i.behavior) ∧
      (ofItem i).get? "myself" = i.attached.map (fun attached => record [("condition", some (.bool attached))]) ∧
      (ofItem i).get? "current" = (if i.current then some (record []) else none) ∧
      (ofItem i).get? "click" = i.click.map ofClick ∧
      (ofItem i).get? "invalid" =
        i.invalid.map fun condition => record [("condition", some (.string condition))] := by
  simp [ofItem, Json.get?_record_cons, Json.get?_record_nil]

theorem item_ofItem (i : Item) : item (ofItem i) = i := by
  obtain ⟨hname, htransitions, hbehavior, hattached, hcurrent, hclick, hinvalid⟩ := get?_ofItem i
  have hmap : (i.transitions.map ofTransition).map transition = i.transitions := by
    rw [List.map_map]
    exact List.map_id'' transition_ofTransition i.transitions
  rcases i with ⟨name, transitions, behavior, attached, current, click, invalid⟩
  simp only [item, textAt, recordAt, Payload.transitions, hname, htransitions, hbehavior, hattached, hcurrent, hclick,
    hinvalid, Item.mk.injEq]
  refine ⟨rfl, hmap, behavior_ofBehavior behavior, ?attached, ?current, ?click, ?invalid⟩
  case attached => cases attached <;> rfl
  case current => cases current <;> rfl
  case click =>
    cases click with
    | none => rfl
    | some click => exact congrArg some (click_ofClick click)
  case invalid => cases invalid <;> rfl

theorem read_write (items : List Item) : read (write items) = .ok items := by
  have hrecords : (items.map ofItem).filter Json.isObject = items.map ofItem := by
    refine List.filter_eq_self.mpr fun entry hm => ?_
    obtain ⟨i, -, rfl⟩ := List.mem_map.mp hm
    rfl
  rw [write, read, hrecords, List.map_map]
  exact congrArg Except.ok (List.map_id'' item_ofItem items)

theorem distinctKeys_ofTransition (t : Transition) : (ofTransition t).DistinctKeys :=
  Json.distinctKeys_record (by simp [Table.keys]) (by simp [Json.DistinctKeys])

theorem distinctKeys_ofBehavior (b : Behavior) : (ofBehavior b).DistinctKeys :=
  Json.distinctKeys_record (by simp [Table.keys]) (by simp [Json.DistinctKeys])

theorem distinctKeys_ofClick (c : Click) : (ofClick c).DistinctKeys :=
  Json.distinctKeys_record (by simp [Table.keys]) (by simp [Json.DistinctKeys])

theorem distinctKeys_condition {value : Json} (h : value.DistinctKeys) :
    (record [("condition", some value)]).DistinctKeys :=
  Json.distinctKeys_record (by simp [Table.keys]) (by simp [h])

theorem distinctKeys_ofItem (i : Item) : (ofItem i).DistinctKeys := by
  have htransitions : (Json.array (i.transitions.map ofTransition)).DistinctKeys := by
    rw [Json.DistinctKeys, Json.elementsDistinct_iff]
    simp [distinctKeys_ofTransition]
  refine Json.distinctKeys_record (by simp [Table.keys]) ?_
  simp only [List.forall_mem_cons, Option.some.injEq, forall_eq', Option.map_eq_some_iff]
  refine ⟨trivial, htransitions, distinctKeys_ofBehavior _, ?attached, ?current, ?click, ?invalid, by simp⟩
  case attached =>
    rintro _ ⟨attached, -, rfl⟩
    exact distinctKeys_condition trivial
  case current =>
    intro value hvalue
    obtain ⟨-, hrecord⟩ := Option.ite_none_right_eq_some.mp hvalue
    obtain rfl := Option.some.inj hrecord
    exact Json.distinctKeys_record (by simp [Table.keys]) (by simp)
  case click =>
    rintro _ ⟨click, -, rfl⟩
    exact distinctKeys_ofClick click
  case invalid =>
    rintro _ ⟨condition, -, rfl⟩
    exact distinctKeys_condition trivial

theorem distinctKeys_write (items : List Item) : (write items).DistinctKeys := by
  rw [write, Json.DistinctKeys, Json.elementsDistinct_iff]
  simp [distinctKeys_ofItem]

-- The reader gives back any items from the payload that is written for them, and there are no others:
-- whatever an array is read as can be written, and is read from that again.
theorem read_inverts_write :
    (∀ items, (write items).DistinctKeys ∧ read (write items) = .ok items) ∧
      (∀ entries, ∃ items, read (.array entries) = .ok items ∧ (∀ item ∈ items, item.IsWritable) ∧
        read (write items) = read (.array entries)) ∧
      (∀ kind, ClickKind.ofText kind.text = kind) ∧ ∀ text, (ClickKind.ofText text).text = text := by
  refine ⟨fun items => ⟨distinctKeys_write items, read_write items⟩, fun entries => ?_, ClickKind.ofText_text,
    ClickKind.text_ofText⟩
  exact ⟨_, rfl, fun item _ => item.isWritable, read_write _⟩

example :
    write
      [{ name := "A"
         transitions := [{}, { next := some "B" }]
         attached := some false
         current := true
         click := some { kind := some (.block .changeState), number := some 1 } }] =
      .array
        [.object
          [("state", .string "A"),
            ("transition", .array [.object [], .object [("nextState", .string "B")]]),
            ("behavior", .object []),
            ("myself", .object [("condition", .bool false)]),
            ("current", .object []),
            ("click", .object [("type", .string "changeStateType"), ("number", .number (.natural 1))])]] :=
  rfl

end Payload

end Statechart
