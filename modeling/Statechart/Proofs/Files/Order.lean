import Statechart.Proofs.Files.Place

namespace Statechart

-- A name that an entry of a directory can have: it is one segment of a path and stands for itself there.
def ProperName (name : String) : Prop :=
  name ≠ "" ∧ name ≠ "." ∧ name ≠ ".." ∧ '/' ∉ name.toList

namespace Node

-- A tree in which entries have proper names, and those of one directory have different ones.
mutual

def WellFormed : Node → Prop
  | .file _ => True
  | .directory entries => (Table.keys entries).Nodup ∧ EntriesWellFormed entries

def EntriesWellFormed : List (String × Node) → Prop
  | [] => True
  | (name, node) :: rest => ProperName name ∧ node.WellFormed ∧ EntriesWellFormed rest

end

theorem entriesWellFormed_iff (entries : List (String × Node)) :
    EntriesWellFormed entries ↔ ∀ entry ∈ entries, ProperName entry.1 ∧ entry.2.WellFormed := by
  induction entries with
  | nil => simp [EntriesWellFormed]
  | cons entry rest ih =>
      obtain ⟨name, node⟩ := entry
      simp only [EntriesWellFormed, ih, List.forall_mem_cons, and_assoc]

theorem wellFormed_directory_iff (entries : List (String × Node)) :
    (directory entries).WellFormed ↔
      (Table.keys entries).Nodup ∧ ∀ entry ∈ entries, ProperName entry.1 ∧ entry.2.WellFormed := by
  rw [WellFormed, entriesWellFormed_iff]

theorem WellFormed.of_at? {node inner : Node} {place : List String} (h : node.WellFormed)
    (hinner : node.at? place = some inner) : inner.WellFormed := by
  induction place generalizing node with
  | nil => exact Option.some.inj hinner ▸ h
  | cons name rest ih =>
      obtain ⟨next, hnext, hrest⟩ := Option.bind_eq_some_iff.mp hinner
      cases node with
      | file content => simp [entries, Table.get?] at hnext
      | directory entries =>
          have hmem := Table.mem_of_get?_eq_some hnext
          exact ih (((wellFormed_directory_iff entries).mp h).2 _ hmem).2 hrest

-- The same tree with its entries in another order: those of one directory, be it deep in the tree, and then
-- those of others.
inductive Reordered : Node → Node → Prop
  | refl (node : Node) : Reordered node node
  | perm {entries others : List (String × Node)} (h : entries.Perm others) :
      Reordered (.directory entries) (.directory others)
  | within {before after : List (String × Node)} {name : String} {node other : Node} (h : Reordered node other) :
      Reordered (.directory (before ++ (name, node) :: after)) (.directory (before ++ (name, other) :: after))
  | trans {node middle other : Node} (h : Reordered node middle) (hother : Reordered middle other) :
      Reordered node other

theorem Reordered.wellFormed {node other : Node} (h : Reordered node other) (hnode : node.WellFormed) :
    other.WellFormed := by
  induction h with
  | refl node => exact hnode
  | perm h =>
      rw [wellFormed_directory_iff] at hnode ⊢
      exact ⟨(h.map Prod.fst).nodup hnode.1, fun entry hm => hnode.2 entry (h.mem_iff.mpr hm)⟩
  | @within before after name node other h ih =>
      rw [wellFormed_directory_iff] at hnode ⊢
      obtain ⟨hnodup, hentries⟩ := hnode
      have hproper := hentries (name, node) (by simp)
      refine ⟨by simpa [Table.keys] using hnodup, fun entry hm => ?_⟩
      rcases List.mem_append.mp hm with hbefore | hrest
      · exact hentries entry (List.mem_append_left _ hbefore)
      · rcases List.mem_cons.mp hrest with rfl | hafter
        · exact ⟨hproper.1, ih hproper.2⟩
        · exact hentries entry (List.mem_append_right _ (List.mem_cons_of_mem _ hafter))
  | trans h hother ih ihother => exact ihother (ih hnode)

-- Where things stand does not depend on the order in which they are listed.
theorem Reordered.look_eq {node other : Node} (h : Reordered node other) (hnode : node.WellFormed)
    (place : List String) : node.look place = other.look place := by
  induction h generalizing place with
  | refl node => rfl
  | perm h =>
      cases place with
      | nil => rfl
      | cons name rest =>
          rw [look_directory_cons, look_directory_cons,
            Table.get?_eq_of_perm h ((wellFormed_directory_iff _).mp hnode).1]
  | @within before after name node other h ih =>
      have hinner := ((wellFormed_directory_iff _).mp hnode).2 (name, node) (by simp)
      cases place with
      | nil => rfl
      | cons wanted rest =>
          rw [look_directory_cons, look_directory_cons, Table.get?_append, Table.get?_append, Table.get?_cons,
            Table.get?_cons]
          cases Table.get? before wanted with
          | some found => rfl
          | none =>
              rw [Option.none_or, Option.none_or]
              split
              · exact ih hinner.2 rest
              · rfl
  | trans h hother ih ihother => exact (ih hnode place).trans (ihother (h.wellFormed hnode) place)

end Node

end Statechart
