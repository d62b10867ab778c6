import Statechart.Command.Machine
import Statechart.Proofs.Files.Place

namespace Statechart

theorem exists_of_bind_ok {ε α β : Type} {first : Except ε α} {next : α → Except ε β} {b : β}
    (h : (first >>= next) = .ok b) : ∃ a, first = .ok a ∧ next a = .ok b := by
  cases first with
  | error e => cases h
  | ok a => exact ⟨a, rfl, h⟩

namespace Machine

variable {machine other left : Machine} {path : String} {place : List String}

-- Where a path leads.
def locate (machine : Machine) (path : String) : Except FileError (List String) :=
  let segments := Text.segments '/' path
  if path = "" then .error .missing else segments.foldlM machine.advance (machine.start segments)

theorem resolve_eq (machine : Machine) (path : String) :
    machine.resolve path = (machine.locate path).bind fun place =>
      match machine.root.at? place with
      | some node => .ok node
      | none => .error .missing := by
  unfold resolve locate
  split <;> rfl

theorem read_eq (machine : Machine) (path : String) :
    machine.read path = (machine.locate path).bind fun place =>
      match machine.root.look place with
      | some (.file content) => .ok content
      | some .directory => .error .isADirectory
      | none => .error .missing := by
  unfold read
  rw [resolve_eq]
  cases machine.locate path with
  | error e => rfl
  | ok place =>
      simp only [Except.bind, Node.look]
      cases machine.root.at? place with
      | none => rfl
      | some node => cases node <;> rfl

-- A step along a path needs to know what stands there and what stands where it leads, and no more.
theorem advance_eq (machine : Machine) (place : List String) (segment : String) :
    machine.advance place segment =
      match machine.root.look place with
      | none => .error .missing
      | some (.file _) => .error .notADirectory
      | some .directory =>
          if segment = "" ∨ segment = "." then .ok place
          else if segment = ".." then .ok place.dropLast
          else if (machine.root.look (place ++ [segment])).isSome then .ok (place ++ [segment])
          else .error .missing := by
  unfold advance
  cases hnode : machine.root.at? place with
  | none => simp [Node.look, hnode]
  | some node =>
      cases node with
      | file content => simp [Node.look, hnode, Node.face]
      | directory entries =>
          have hentry : (machine.root.look (place ++ [segment])).isSome = Table.hasKey entries segment := by
            rw [Node.look, Option.isSome_map, Node.at?_concat hnode, Table.hasKey_eq_isSome]
          simp [Node.look, hnode, Node.face, ← hentry]

theorem locate_congr (hlook : ∀ place, machine.root.look place = other.root.look place)
    (hcwd : machine.cwd = other.cwd) (path : String) : machine.locate path = other.locate path := by
  have hadvance : machine.advance = other.advance := by
    funext place segment
    rw [advance_eq, advance_eq, hlook, hlook]
  rw [locate, locate, hadvance, start, start, hcwd]

-- A path goes on to lead where it did when files are added.
theorem advance_mono
    (hdirectory : ∀ place, machine.root.look place = some .directory → left.root.look place = some .directory)
    (hsome : ∀ place, (machine.root.look place).isSome = true → (left.root.look place).isSome = true)
    {segment : String} {next : List String} (h : machine.advance place segment = .ok next) :
    left.advance place segment = .ok next := by
  rw [advance_eq] at h ⊢
  cases hplace : machine.root.look place with
  | none => simp [hplace] at h
  | some face =>
      cases face with
      | file content => simp [hplace] at h
      | directory =>
          rw [hdirectory place hplace]
          simp only [hplace] at h ⊢
          by_cases hexists : (machine.root.look (place ++ [segment])).isSome = true
          · rw [if_pos hexists] at h
            rw [if_pos (hsome _ hexists)]
            exact h
          · rw [if_neg hexists] at h
            split
            · simp_all
            · split <;> simp_all

theorem foldlM_advance_mono
    (hdirectory : ∀ place, machine.root.look place = some .directory → left.root.look place = some .directory)
    (hsome : ∀ place, (machine.root.look place).isSome = true → (left.root.look place).isSome = true)
    {segments : List String} {next : List String} (h : segments.foldlM machine.advance place = .ok next) :
    segments.foldlM left.advance place = .ok next := by
  induction segments generalizing place with
  | nil => exact h
  | cons segment rest ih =>
      rw [List.foldlM_cons] at h ⊢
      obtain ⟨middle, hstep, hrest⟩ := exists_of_bind_ok h
      rw [advance_mono hdirectory hsome hstep]
      exact ih hrest

-- Where a file that is written to a path goes.
def destination (machine : Machine) (path : String) : Except FileError (List String) := do
  if path = "" then throw .missing
  let segments := Text.segments '/' path
  match segments.reverse.dropWhile (· = "") with
  | [] => throw .isADirectory
  | last :: before =>
      let place ← before.reverse.foldlM machine.advance (machine.start segments)
      match machine.root.at? place with
      | none => throw .missing
      | some (.file _) => throw .notADirectory
      | some (.directory entries) =>
          let named := before.length + 1 = segments.length && last ≠ "." && last ≠ ".."
          match named, Table.get? entries last with
          | false, _ | _, some (.directory _) => throw .isADirectory
          | true, _ => return place ++ [last]

theorem write_eq (machine : Machine) (path : String) (content : ByteArray) :
    machine.write path content =
      (machine.destination path).map fun place =>
        { machine with root := .graft (.file content) machine.root place } := by
  unfold write destination
  by_cases hpath : path = ""
  · rw [if_pos hpath, if_pos hpath]
    rfl
  rw [if_neg hpath, if_neg hpath]
  dsimp only
  cases (Text.segments '/' path).reverse.dropWhile (· = "") with
  | nil => rfl
  | cons last before =>
      dsimp only
      cases before.reverse.foldlM machine.advance (machine.start (Text.segments '/' path)) with
      | error e => rfl
      | ok place =>
          simp only [bind, Except.bind]
          cases machine.root.at? place with
          | none => rfl
          | some node =>
              cases node with
              | file old => rfl
              | directory entries =>
                  dsimp only
                  generalize (decide (before.length + 1 = (Text.segments '/' path).length) && decide (last ≠ ".") &&
                    decide (last ≠ "..")) = named
                  cases named with
                  | false => rfl
                  | true =>
                      cases Table.get? entries last with
                      | none => rfl
                      | some found => cases found <;> rfl

theorem destination_withInput (machine : Machine) (path : String) (input : ByteArray) :
    { machine with input }.destination path = machine.destination path := rfl
-- A file is written into a directory that is there, under a name that no directory has.
theorem write_cases {content : ByteArray} (h : machine.write path content = .ok left) :
    ∃ front last directory, path ≠ "" ∧ Text.segments '/' path = front ++ [last] ∧
      (last ≠ "" ∧ last ≠ "." ∧ last ≠ "..") ∧
      front.foldlM machine.advance (machine.start (Text.segments '/' path)) = .ok directory ∧
      machine.root.look directory = some .directory ∧ machine.root.look (directory ++ [last]) ≠ some .directory ∧
      left = { machine with root := .graft (.file content) machine.root (directory ++ [last]) } := by
  unfold write at h
  by_cases hpath : path = ""
  · rw [if_pos hpath] at h
    cases h
  rw [if_neg hpath] at h
  cases hrev : (Text.segments '/' path).reverse.dropWhile (· = "") with
  | nil =>
      simp only [hrev] at h
      cases h
  | cons last before =>
      simp only [hrev] at h
      obtain ⟨directory, hdirectory, h⟩ := exists_of_bind_ok h
      have hlast : last ≠ "" := by
        have hhead := List.head_dropWhile_not (fun segment : String => decide (segment = ""))
          (l := (Text.segments '/' path).reverse) (by rw [hrev]; simp)
        simpa only [hrev, List.head_cons, decide_eq_false_iff_not] using hhead
      cases hnode : machine.root.at? directory with
      | none =>
          simp only [hnode] at h
          cases h
      | some node =>
          cases node with
          | file old =>
              simp only [hnode] at h
              cases h
          | directory entries =>
              simp only [hnode] at h
              split at h
              · cases h
              · cases h
              · rename_i hnamed hentry
                simp only [Bool.and_eq_true, decide_eq_true_eq, and_assoc] at hnamed
                obtain ⟨hlength, hdot, hdots⟩ := hnamed
                have hall : last :: before = (Text.segments '/' path).reverse := by
                  rw [← hrev]
                  refine (List.dropWhile_suffix _).eq_of_length ?_
                  rw [hrev, List.length_reverse, ← hlength, List.length_cons]
                refine ⟨before.reverse, last, directory, hpath, ?_, ⟨hlast, hdot, hdots⟩, hdirectory, ?_, ?_, ?_⟩
                · simpa using (congrArg List.reverse hall).symm
                · exact (Node.look_eq_directory_iff _ _).mpr ⟨entries, hnode⟩
                · intro hlook
                  obtain ⟨inner, hinner⟩ := (Node.look_eq_directory_iff _ _).mp hlook
                  exact hentry inner (Node.at?_concat hnode last ▸ hinner)
                · exact (Except.ok.inj h).symm

-- A file that has been written stands where its path leads, and all else stands as before.
theorem write_ok {content : ByteArray} (h : machine.write path content = .ok left) :
    ∃ place, left.locate path = .ok place ∧ left.root.look place = some (.file content) ∧
      (∀ other, other ≠ place → left.root.look other = machine.root.look other) ∧
      left.cwd = machine.cwd ∧ left.input = machine.input := by
  obtain ⟨front, last, directory, hpath, hsegments, ⟨hlast, hdot, hdots⟩, hfront, hdirectory, hfree, hleft⟩ :=
    write_cases h
  have hroot : left.root = .graft (.file content) machine.root (directory ++ [last]) := by rw [hleft]
  have hcwd : left.cwd = machine.cwd := by rw [hleft]
  have hinput : left.input = machine.input := by rw [hleft]
  have hself : left.root.look (directory ++ [last]) = some (.file content) := by
    rw [hroot, Node.look, Node.at?_graft]
    rfl
  have hframe (other : List String) (hother : other ≠ directory ++ [last]) :
      left.root.look other = machine.root.look other := by
    rw [hroot]
    exact Node.look_graft_of_ne hdirectory hfree hother
  have hdirectories (place : List String) (hplace : machine.root.look place = some .directory) :
      left.root.look place = some .directory := by
    rw [hframe place fun heq => hfree (heq ▸ hplace)]
    exact hplace
  have hthere (place : List String) (hplace : (machine.root.look place).isSome = true) :
      (left.root.look place).isSome = true := by
    by_cases hother : place = directory ++ [last]
    · rw [hother, hself]
      rfl
    · rw [hframe place hother]
      exact hplace
  have hstart : left.start (Text.segments '/' path) = machine.start (Text.segments '/' path) := by
    rw [start, start, hcwd]
  have hstep : left.advance directory last = .ok (directory ++ [last]) := by
    rw [advance_eq, hdirectories directory hdirectory, hself]
    simp [hlast, hdot, hdots]
  refine ⟨directory ++ [last], ?_, hself, hframe, hcwd, hinput⟩
  have hleads := foldlM_advance_mono hdirectories hthere hfront
  rw [locate, if_neg hpath, hstart]
  generalize machine.start (Text.segments '/' path) = origin at hleads ⊢
  rw [hsegments, List.foldlM_append, hleads]
  exact (bind_pure _).trans hstep

end Machine

end Statechart
