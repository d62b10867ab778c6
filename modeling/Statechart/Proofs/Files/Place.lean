import Statechart.Files.Node
import Statechart.Proofs.Table.Lookup

namespace Statechart

-- What a node shows of itself: the content of a file, but not what a directory holds.
inductive Face where
  | file (content : ByteArray)
  | directory

namespace Node

def face : Node → Face
  | .file content => .file content
  | .directory _ => .directory

-- What stands at a place of a tree.
def look (node : Node) (place : List String) : Option Face :=
  (node.at? place).map face

theorem face_eq_directory_iff (node : Node) : node.face = .directory ↔ ∃ entries, node = .directory entries := by
  cases node <;> simp [face]

theorem look_eq_directory_iff (node : Node) (place : List String) :
    node.look place = some .directory ↔ ∃ entries, node.at? place = some (.directory entries) := by
  rw [look, Option.map_eq_some_iff]
  constructor
  · rintro ⟨found, hfound, hface⟩
    obtain ⟨entries, rfl⟩ := (face_eq_directory_iff found).mp hface
    exact ⟨entries, hfound⟩
  · rintro ⟨entries, hfound⟩
    exact ⟨_, hfound, rfl⟩

theorem at?_append (node : Node) (front back : List String) :
    node.at? (front ++ back) = (node.at? front).bind (·.at? back) := by
  induction front generalizing node with
  | nil => rfl
  | cons name rest ih =>
      rw [List.cons_append, at?, at?]
      cases Table.get? node.entries name with
      | none => rfl
      | some inner => exact ih inner

-- A place below another is looked for among the entries of what stands there.
theorem at?_concat {node : Node} {place : List String} {entries : List (String × Node)}
    (h : node.at? place = some (.directory entries)) (name : String) :
    node.at? (place ++ [name]) = Table.get? entries name := by
  rw [at?_append, h, Option.bind_some, at?]
  exact Option.bind_fun_some _

theorem look_cons (node : Node) (name : String) (rest : List String) :
    node.look (name :: rest) = (Table.get? node.entries name).bind (·.look rest) := by
  rw [look, at?, Option.map_bind]
  rfl

theorem look_directory_cons (entries : List (String × Node)) (name : String) (rest : List String) :
    (directory entries).look (name :: rest) = (Table.get? entries name).bind (·.look rest) :=
  look_cons _ name rest

-- What shows below a directory is in one of its entries.
theorem exists_mem_of_look_cons {entries : List (String × Node)} {name : String} {rest : List String} {face : Face}
    (h : (directory entries).look (name :: rest) = some face) :
    ∃ inner, (name, inner) ∈ entries ∧ inner.look rest = some face := by
  rw [look_directory_cons] at h
  obtain ⟨inner, hinner, hrest⟩ := Option.bind_eq_some_iff.mp h
  exact ⟨inner, Table.mem_of_get?_eq_some hinner, hrest⟩

theorem at?_graft (leaf node : Node) (place : List String) : (graft leaf node place).at? place = some leaf := by
  induction place generalizing node with
  | nil => rfl
  | cons name rest ih =>
      rw [graft, at?, entries, Table.get?_put, if_pos rfl]
      exact ih _

-- A file that is put into a directory that is there, in place of none or of another file, shows at its
-- own place and nowhere else.
theorem look_graft_of_ne {content : ByteArray} {node : Node} {front : List String} {last : String}
    (hfront : node.look front = some .directory) (hlast : node.look (front ++ [last]) ≠ some .directory)
    {other : List String} (hother : other ≠ front ++ [last]) :
    (graft (.file content) node (front ++ [last])).look other = node.look other := by
  induction front generalizing node other with
  | nil =>
      obtain ⟨entries, rfl⟩ := (face_eq_directory_iff node).mp (Option.some.inj hfront)
      cases other with
      | nil => rfl
      | cons name rest =>
          rw [List.nil_append, graft, look_directory_cons, look_directory_cons, Table.get?_put]
          by_cases hname : name = last
          · subst hname
            cases rest with
            | nil => exact absurd rfl hother
            | cons below rest =>
                rw [List.nil_append, look_directory_cons] at hlast
                -- there is nothing below a file, be it the new one or one that stood in its place
                cases hentry : Table.get? entries name with
                | none => simp [graft, look_cons, Node.entries, Table.get?]
                | some node =>
                    cases node with
                    | file old => simp [graft, look_cons, Node.entries, Table.get?]
                    | directory inner => exact absurd (by rw [hentry]; rfl) hlast
          · rw [if_neg hname]
            rfl
  | cons first front ih =>
      rw [look_cons] at hfront
      obtain ⟨inner, hinner, hdirectory⟩ := Option.bind_eq_some_iff.mp hfront
      rw [List.cons_append, look_cons, hinner, Option.bind_some] at hlast
      cases other with
      | nil =>
          cases node with
          | file old => simp [entries, Table.get?] at hinner
          | directory entries => rfl
      | cons name rest =>
          rw [List.cons_append, graft, hinner, Option.getD_some, look_directory_cons, look_cons, Table.get?_put]
          by_cases hname : name = first
          · subst hname
            have hrest : rest ≠ front ++ [last] := fun h => hother (congrArg (name :: ·) h)
            rw [if_pos rfl, hinner, Option.bind_some, Option.bind_some]
            exact ih hdirectory hlast hrest
          · rw [if_neg hname]

end Node

end Statechart
