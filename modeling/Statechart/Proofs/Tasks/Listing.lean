import Mathlib.Data.List.Sort
import Mathlib.Data.String.Basic
import Statechart.Proofs.Command.Play
import Statechart.Proofs.Files.Order
import Statechart.Proofs.Files.Paths
import Statechart.Proofs.Text.Lines

namespace Statechart

namespace Node

variable {node : Node}

-- What is listed of a place; nothing where there is no directory.
def listing (node : Node) (place : List String) : List (String × EntryKind) :=
  (((node.at? place).map entries).getD []).map fun (name, node) => (name, node.kind)

theorem listing_eq {inner : Node} {place : List String} (h : node.at? place = some inner) :
    node.listing place = inner.entries.map fun (name, node) => (name, node.kind) := by
  rw [listing, h]
  rfl

theorem WellFormed.nodup_keys_entries (h : node.WellFormed) : (Table.keys node.entries).Nodup := by
  cases node with
  | file content => exact List.nodup_nil
  | directory entries => exact ((wellFormed_directory_iff entries).mp h).1

theorem nodup_keys_listing (h : node.WellFormed) (place : List String) :
    (Table.keys (node.listing place)).Nodup := by
  cases hplace : node.at? place with
  | none => simp [listing, hplace, Table.keys]
  | some inner =>
      have hkeys := (h.of_at? hplace).nodup_keys_entries
      rw [listing_eq hplace]
      simpa [Table.keys, Function.comp_def] using hkeys

theorem mem_listing_iff (h : node.WellFormed) (place : List String) (name : String) (kind : EntryKind) :
    (name, kind) ∈ node.listing place ↔ ∃ found, node.at? (place ++ [name]) = some found ∧ found.kind = kind := by
  rw [at?_append]
  cases hplace : node.at? place with
  | none => simp [listing, hplace]
  | some inner =>
      have hkeys := (h.of_at? hplace).nodup_keys_entries
      simp [listing_eq hplace, at?, Table.get?_eq_some_iff_mem hkeys]

theorem mem_listing_directory_iff (h : node.WellFormed) (place : List String) (name : String) :
    (name, .directory) ∈ node.listing place ↔ node.look (place ++ [name]) = some .directory := by
  rw [mem_listing_iff h, look_eq_directory_iff]
  constructor
  · rintro ⟨found, hfound, hkind⟩
    cases found with
    | file content => cases hkind
    | directory entries => exact ⟨entries, hfound⟩
  · rintro ⟨entries, hfound⟩
    exact ⟨_, hfound, rfl⟩

theorem mem_listing_file_iff (h : node.WellFormed) (place : List String) (name : String) :
    (name, .file) ∈ node.listing place ↔ ∃ content, node.look (place ++ [name]) = some (.file content) := by
  rw [mem_listing_iff h]
  constructor
  · rintro ⟨found, hfound, hkind⟩
    cases found with
    | file content => exact ⟨content, by rw [look, hfound]; rfl⟩
    | directory entries => cases hkind
  · rintro ⟨content, hlook⟩
    obtain ⟨found, hfound, hface⟩ := Option.map_eq_some_iff.mp hlook
    cases found with
    | file old => exact ⟨_, hfound, rfl⟩
    | directory entries => cases hface

-- What holds something is a directory.
theorem look_eq_directory_of_concat {place : List String} {name : String}
    (h : (node.look (place ++ [name])).isSome = true) : node.look place = some .directory := by
  rw [look, at?_append] at h
  rw [look]
  cases hplace : node.at? place with
  | none => simp [hplace] at h
  | some inner =>
      cases inner with
      | file content => simp [hplace, at?, entries, Table.get?] at h
      | directory entries => rfl

theorem WellFormed.properName {place : List String} {name : String} (h : node.WellFormed)
    (hname : (node.look (place ++ [name])).isSome = true) : ProperName name := by
  obtain ⟨entries, hentries⟩ := (look_eq_directory_iff _ _).mp (look_eq_directory_of_concat hname)
  rw [look, Option.isSome_map, at?_concat hentries] at hname
  obtain ⟨found, hfound⟩ := Option.isSome_iff_exists.mp hname
  have hmem := Table.mem_of_get?_eq_some hfound
  exact (((wellFormed_directory_iff _).mp (h.of_at? hentries)).2 _ hmem).1

end Node

-- A path leads to a directory, and where that stands.
def Machine.DirectoryAt (machine : Machine) (path : String) (place : List String) : Prop :=
  machine.locate path = .ok place ∧ machine.root.look place = some .directory

-- What a directory lists, and why anything else does not list, can be told from what stands where the path leads.
theorem Machine.list_eq (machine : Machine) (path : String) :
    machine.list path = (machine.locate path).bind fun place =>
      match machine.root.look place with
      | some .directory => .ok (machine.root.listing place)
      | some (.file _) => .error .notADirectory
      | none => .error .missing := by
  unfold list
  rw [resolve_eq]
  cases machine.locate path with
  | error e => rfl
  | ok place =>
      simp only [Except.bind, Node.look, Node.listing]
      cases machine.root.at? place with
      | none => rfl
      | some node => cases node <;> rfl

-- Where no directory is, there is a reason, the same one wherever the same things stand.
theorem Machine.exists_list_error {machine : Machine} {path : String}
    (h : ¬∃ place, machine.DirectoryAt path place) :
    ∃ reason, ∀ other : Machine, (∀ place, machine.root.look place = other.root.look place) →
      machine.cwd = other.cwd → other.list path = .error reason := by
  cases hpath : machine.locate path with
  | error reason =>
      refine ⟨reason, fun other hlook hcwd => ?_⟩
      rw [list_eq, ← locate_congr hlook hcwd, hpath]
      rfl
  | ok place =>
      have hother (other : Machine) (hlook : ∀ place, machine.root.look place = other.root.look place)
          (hcwd : machine.cwd = other.cwd) : other.locate path = .ok place ∧
            other.root.look place = machine.root.look place :=
        ⟨(locate_congr hlook hcwd path).symm.trans hpath, (hlook place).symm⟩
      cases hplace : machine.root.look place with
      | none =>
          refine ⟨.missing, fun other hlook hcwd => ?_⟩
          obtain ⟨hlocate, hthere⟩ := hother other hlook hcwd
          rw [list_eq, hlocate, Except.bind, hthere, hplace]
      | some face =>
          cases face with
          | file content =>
              refine ⟨.notADirectory, fun other hlook hcwd => ?_⟩
              obtain ⟨hlocate, hthere⟩ := hother other hlook hcwd
              rw [list_eq, hlocate, Except.bind, hthere, hplace]
          | directory => exact absurd ⟨place, hpath, hplace⟩ h

namespace Tasks

variable {machine : Machine} {path name : String} {place : List String}

-- The segments of a path to an entry are those of the path to the directory, less an empty last one, and the
-- name of the entry.
theorem exists_segments_join (path : String) (hname : '/' ∉ name.toList) :
    ∃ front, front ≠ [] ∧ Text.segments '/' (join path name) = front ++ [name] ∧
      (Text.segments '/' path = front ∨ Text.segments '/' path = front ++ [""]) := by
  have hlast (front : List Char) : Text.piecesAt '/' (front ++ '/' :: name.toList) =
      Text.piecesAt '/' front ++ [name.toList] := by
    rw [Text.piecesAt_append, Text.piecesAt_of_notMem hname]
  unfold join
  split
  · rename_i hslash
    obtain ⟨front, hfront⟩ : ∃ front, path.toList = front ++ ['/'] := List.getLast?_eq_some_iff.mp hslash
    refine ⟨(Text.piecesAt '/' front).map String.ofList, ?_, ?_, .inr ?_⟩
    · simp [Text.piecesAt_ne_nil]
    · simp [Text.segments, hfront, hlast]
    · simp [Text.segments, hfront, Text.piecesAt_append, Text.piecesAt]
  · refine ⟨Text.segments '/' path, Text.segments_ne_nil _ _, ?_, .inl rfl⟩
    have htext : (path ++ "/" ++ name).toList = path.toList ++ '/' :: name.toList := by simp
    rw [Text.segments, htext, hlast]
    simp [Text.segments]

-- A path that leads to a directory leads on to what the directory holds.
theorem locate_join (hmachine : machine.root.WellFormed) (hpath : machine.locate path = .ok place)
    (hentry : (machine.root.look (place ++ [name])).isSome = true) :
    machine.locate (join path name) = .ok (place ++ [name]) := by
  obtain ⟨hempty, hdot, hdots, hslash⟩ := hmachine.properName hentry
  obtain ⟨front, hfront, hjoin, hsegments⟩ := exists_segments_join path hslash
  have hstart : machine.start (front ++ [name]) = machine.start (Text.segments '/' path) := by
    rcases hsegments with h | h <;> simp [Machine.start, h, List.head?_append_of_ne_nil _ hfront]
  -- an empty segment leads nowhere else
  have hleads : front.foldlM machine.advance (machine.start (Text.segments '/' path)) = .ok place := by
    unfold Machine.locate at hpath
    split at hpath
    · cases hpath
    · rcases hsegments with h | h
      · rwa [h] at hpath ⊢
      · rw [h] at hpath ⊢
        rw [List.foldlM_append] at hpath
        obtain ⟨before, hbefore, hstep⟩ := exists_of_bind_ok hpath
        replace hstep : machine.advance before "" = .ok place := (bind_pure _).symm.trans hstep
        rw [Machine.advance_eq] at hstep
        split at hstep
        · cases hstep
        · cases hstep
        · rw [if_pos (.inl rfl)] at hstep
          rw [hbefore, hstep]
  have hstep : machine.advance place name = .ok (place ++ [name]) := by
    rw [Machine.advance_eq, Node.look_eq_directory_of_concat hentry, hentry]
    simp [hempty, hdot, hdots]
  have hne : join path name ≠ "" := by
    intro h
    rw [h] at hjoin
    have hone : [""] = front ++ [name] := hjoin
    simp [List.singleton_eq_append_iff, hfront] at hone
  rw [Machine.locate, if_neg hne, hjoin, hstart, List.foldlM_append, hleads]
  exact (bind_pure _).trans hstep

theorem mem_namesOf (kind : EntryKind) (entries : List (String × EntryKind)) (name : String) :
    name ∈ namesOf kind entries ↔ (name, kind) ∈ entries := by
  simp [namesOf, List.mem_mergeSort]

-- Sorted names do not depend on the order in which they were listed.
theorem pairwise_namesOf (kind : EntryKind) {entries : List (String × EntryKind)}
    (h : (Table.keys entries).Nodup) : (namesOf kind entries).Pairwise (· < ·) := by
  have hsorted : (namesOf kind entries).Pairwise fun a b => (!decide (b < a)) = true := by
    refine List.pairwise_mergeSort ?_ ?_ _
    · intro a b c hab hbc
      simp only [Bool.not_eq_true', decide_eq_false_iff_not, not_lt] at hab hbc ⊢
      exact hab.trans hbc
    · intro a b
      simp only [Bool.or_eq_true, Bool.not_eq_true', decide_eq_false_iff_not, not_lt]
      exact le_total a b
  have hnodup : (namesOf kind entries).Nodup :=
    (List.mergeSort_perm _ _).nodup_iff.mpr (h.sublist (List.filter_sublist.map Prod.fst))
  refine hsorted.imp₂ (fun a b hab hne => ?_) hnodup
  simp only [Bool.not_eq_true', decide_eq_false_iff_not, not_lt] at hab
  exact lt_of_le_of_ne hab hne

theorem isDocument_iff (name : String) : isDocument name = true ↔ ".json".toList <:+ name.toList :=
  List.isSuffixOf_iff_suffix

theorem play_list (path : String) (events : List Event) (machine : Machine) :
    (list path : Session (StateM Machine) _).play events machine =
      (((machine.list path).mapError (.file path), events), machine) :=
  Session.play_ask _ _ _ _

theorem play_list_of_locate (events : List Event) (hpath : machine.locate path = .ok place)
    (hplace : machine.root.look place = some .directory) :
    (list path : Session (StateM Machine) _).play events machine =
      ((.ok (machine.root.listing place), events), machine) := by
  rw [play_list, Machine.list_eq, hpath, Except.bind, hplace]
  rfl

theorem play_tasks (events : List Event) (hpath : machine.locate path = .ok place)
    (hplace : machine.root.look place = some .directory) :
    (tasks path : Session (StateM Machine) _).play events machine =
      ((.ok (namesOf .directory (machine.root.listing place)), events), machine) := by
  rw [tasks, Session.play_bind, play_list_of_locate events hpath hplace]
  rfl

theorem play_documents (events : List Event) (hpath : machine.locate path = .ok place)
    (hplace : machine.root.look place = some .directory) :
    (documents path : Session (StateM Machine) _).play events machine =
      ((.ok ((namesOf .file (machine.root.listing place)).filter isDocument), events), machine) := by
  rw [documents, Session.play_bind, play_list_of_locate events hpath hplace]
  rfl

end Tasks

end Statechart
