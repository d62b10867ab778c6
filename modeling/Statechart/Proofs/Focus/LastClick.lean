import Statechart.Proofs.Health.Sound
import Statechart.Proofs.List.Search
import Statechart.Proofs.Text.Lemmas
import Statechart.States

namespace Statechart

-- An item's click is on the transition to a target.
def Item.PointsTo (item : Item) (target : String) : Prop :=
  ∃ click kind number t, item.click = some click ∧ click.kind = some kind ∧ click.number = some number ∧
    item.transitions[number.toNat]? = some t ∧ t.next = some target

-- An item's click is of a kind.
def Item.ClickedAs (item : Item) (kind : ClickKind) : Prop :=
  ∃ click, item.click = some click ∧ click.kind = some kind

-- An item's click is on a block of the item.
def Item.FocusesOn (item : Item) (block : FocusedBlock) : Prop :=
  item.name = block.owner ∧ item.ClickedAs block.kind

theorem Item.clickKind?_eq_some_iff (item : Item) (kind : ClickKind) :
    item.clickKind? = some kind ↔ item.ClickedAs kind :=
  Option.bind_eq_some_iff

theorem Item.mem_targets_of_pointsTo {item : Item} {target : String} (h : item.PointsTo target) :
    target ∈ item.targets := by
  obtain ⟨-, -, number, t, -, -, -, ht, hnext⟩ := h
  exact (item.mem_targets_iff target).mpr ⟨t, List.mem_of_getElem? ht, hnext⟩

namespace Focus

-- The block that an item puts the focus on.
def blockOf? (item : Item) : Option FocusedBlock :=
  item.clickKind?.map fun kind => ⟨item.name, kind⟩

theorem block_observeBlock (f : Focus) (item : Item) : (f.observeBlock item).block = (blockOf? item).or f.block := by
  unfold observeBlock blockOf?
  cases item.clickKind? <;> rfl

theorem target_observeBlock (f : Focus) (item : Item) : (f.observeBlock item).target = f.target := by
  unfold observeBlock
  cases item.clickKind? <;> rfl

theorem block_observeIndex (f : Focus) (item : Item) : (f.observeIndex item).block = f.block := by
  unfold observeIndex
  cases clickedTarget? item <;> rfl

theorem target_observeIndex (f : Focus) (item : Item) :
    (f.observeIndex item).target = (clickedTarget? item).or f.target := by
  unfold observeIndex
  cases clickedTarget? item <;> rfl

theorem blockOf?_eq_some_iff (item : Item) (block : FocusedBlock) :
    blockOf? item = some block ↔ item.FocusesOn block := by
  rw [blockOf?, Option.map_eq_some_iff]
  constructor
  · rintro ⟨kind, hkind, rfl⟩
    exact ⟨rfl, (item.clickKind?_eq_some_iff kind).mp hkind⟩
  · rintro ⟨hname, hkind⟩
    exact ⟨_, (item.clickKind?_eq_some_iff _).mpr hkind, by rw [hname]⟩

theorem clickedTarget?_eq_some_iff (item : Item) (target : String) :
    clickedTarget? item = some target ↔ item.PointsTo target := by
  simp only [clickedTarget?, Option.bind_eq_bind, Option.bind_eq_some_iff, Item.PointsTo]
  constructor
  · rintro ⟨click, hclick, kind, hkind, number, hnumber, t, ht, hnext⟩
    exact ⟨click, kind, number, t, hclick, hkind, hnumber, ht, hnext⟩
  · rintro ⟨click, kind, number, t, hclick, hkind, hnumber, ht, hnext⟩
    exact ⟨click, hclick, kind, hkind, number, hnumber, t, ht, hnext⟩

-- What the two passes over a model gather.
def ofItems (items : List Item) : Focus :=
  items.foldl observeBlock (items.foldl observeIndex {})

theorem block_ofItems (items : List Item) : (ofItems items).block = items.reverse.findSome? blockOf? := by
  have hindexed : (items.foldl observeIndex {}).block = none := foldl_unwritten block_observeIndex {} items
  rw [ofItems, foldl_lastWrite block_observeBlock, hindexed, Option.or_none]

theorem target_ofItems (items : List Item) :
    (ofItems items).target = items.reverse.findSome? clickedTarget? := by
  rw [ofItems, foldl_unwritten target_observeBlock, foldl_lastWrite target_observeIndex, Option.or_none]

-- The block of a model is that of its last item with a click of some kind.
theorem block_ofItems_eq_some_iff (items : List Item) (block : FocusedBlock) :
    (ofItems items).block = some block ↔
      ∃ item, LastWith (fun item => ∃ kind, item.ClickedAs kind) items item ∧
        item.name = block.owner ∧ item.ClickedAs block.kind := by
  have hfocused : (fun item => ∃ found, blockOf? item = some found) =
      fun item : Item => ∃ kind, item.ClickedAs kind := by
    funext item
    simp [blockOf?, Option.map_eq_some_iff, Item.clickKind?_eq_some_iff]
  rw [block_ofItems, findSome?_reverse_eq_some_iff, hfocused]
  simp only [blockOf?_eq_some_iff, Item.FocusesOn]

theorem target_ofItems_eq_some_iff (items : List Item) (target : String) :
    (ofItems items).target = some target ↔
      ∃ item, LastWith (fun item => ∃ target, item.PointsTo target) items item ∧ item.PointsTo target := by
  simp only [target_ofItems, findSome?_reverse_eq_some_iff, clickedTarget?_eq_some_iff]

theorem target_ofItems_eq_none_iff (items : List Item) :
    (ofItems items).target = none ↔ ∀ item ∈ items, ∀ target, ¬item.PointsTo target := by
  simp only [target_ofItems, findSome?_reverse_eq_none_iff, ne_eq, clickedTarget?_eq_some_iff]

theorem highlight?_eq_some_iff (f : Focus) (active : Option String) (h : Highlight) :
    f.highlight? active = some h ↔
      ∃ block, f.block = some block ∧ f.target.getD block.owner = h.subject ∧
        Template.ofClick? block.kind = some h.template ∧ h.subject ≠ Name.final ∧
        h.active = (active == some h.subject) := by
  rcases f with ⟨block, target⟩
  rcases h with ⟨subject, template, isActive⟩
  cases block with
  | none => simp [highlight?, template?]
  | some block =>
      have hsubject : (⟨some block, target⟩ : Focus).subject? = some (target.getD block.owner) := by
        cases target <;> rfl
      simp only [highlight?, hsubject, template?, Option.bind_eq_bind, Option.bind_some, Option.bind_eq_some_iff]
      constructor
      · rintro ⟨found, htemplate, hfound⟩
        split at hfound
        · simp at hfound
        · rename_i hfinal
          obtain ⟨rfl, rfl, rfl⟩ := Highlight.mk.inj (Option.some.inj hfound)
          exact ⟨block, rfl, rfl, htemplate, hfinal, rfl⟩
      · rintro ⟨other, hother, rfl, htemplate, hfinal, rfl⟩
        obtain rfl := Option.some.inj hother
        exact ⟨template, htemplate, by rw [if_neg hfinal]⟩

end Focus

-- The active state is the first target that carries the marker.
theorem activeState_eq_some_iff (items : List Item) (name : String) :
    activeState items = some name ↔
      ∃ before after, targets items = before ++ name :: after ∧ Name.marker.toList <:+: name.toList ∧
        ∀ other ∈ before, ¬Name.marker.toList <:+: other.toList := by
  rw [activeState, List.find?_eq_some_iff_append]
  simp only [Name.isMarked, Text.mentions_iff, Bool.not_eq_true', ← Bool.not_eq_true]
  constructor
  · rintro ⟨hmarked, before, after, htargets, hbefore⟩
    exact ⟨before, after, htargets, hmarked, hbefore⟩
  · rintro ⟨before, after, htargets, hmarked, hbefore⟩
    exact ⟨hmarked, before, after, htargets, hbefore⟩

end Statechart
