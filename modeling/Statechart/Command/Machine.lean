import Statechart.Files.Node
import Statechart.Text.Segments

namespace Statechart

-- All that a command can see: a file tree, a place in it, and what comes in from outside.
structure Machine where
  root : Node
  cwd : List String
  input : ByteArray

namespace Machine

-- One segment of a path. Only from a directory does a path go on, be it to the same place.
def advance (machine : Machine) (place : List String) (segment : String) : Except FileError (List String) :=
  match machine.root.at? place with
  | none => .error .missing
  | some (.file _) => .error .notADirectory
  | some (.directory entries) =>
      if segment = "" ∨ segment = "." then .ok place
      else if segment = ".." then .ok place.dropLast
      else if Table.hasKey entries segment then .ok (place ++ [segment])
      else .error .missing

def start (machine : Machine) (segments : List String) : List String :=
  if segments.head? = some "" then [] else machine.cwd

-- Where a path leads. The empty path leads nowhere.
def resolve (machine : Machine) (path : String) : Except FileError Node := do
  if path = "" then throw .missing
  let segments := Text.segments '/' path
  let place ← segments.foldlM machine.advance (machine.start segments)
  match machine.root.at? place with
  | some node => return node
  | none => throw .missing

def read (machine : Machine) (path : String) : Except FileError ByteArray := do
  match ← machine.resolve path with
  | .file content => return content
  | .directory _ => throw .isADirectory

def list (machine : Machine) (path : String) : Except FileError (List (String × EntryKind)) := do
  match ← machine.resolve path with
  | .file _ => throw .notADirectory
  | .directory entries => return entries.map fun (name, node) => (name, node.kind)

-- Writes a file. Its directory has to be there; a path that can only lead to a directory is refused
-- after that has been looked up.
def write (machine : Machine) (path : String) (content : ByteArray) : Except FileError Machine := do
  if path = "" then throw .missing
  let segments := Text.segments '/' path
  match segments.reverse.dropWhile (· = "") with
  | [] => throw .isADirectory
  | last :: before =>
      let place ← before.reverse.foldlM machine.advance (machine.start segments)
      match machine.root.at? place with
      | none => throw .missing
      | some (.file _) => throw .notADirectory
      | some (.directory entries) =>
          let named := before.length + 1 = segments.length && last ≠ "." && last ≠ ".."
          match named, Table.get? entries last with
          | false, _ | _, some (.directory _) => throw .isADirectory
          | true, _ => return { machine with root := .graft (.file content) machine.root (place ++ [last]) }

-- The files below the place of a machine, by path.
def files (machine : Machine) : List (String × ByteArray) :=
  let found := ((machine.root.at? machine.cwd).map Node.files).getD []
  found.map fun (path, content) => ("/".intercalate path, content)

-- The files that are new in `after` or have another content there, sorted by path.
def changes (before after : Machine) : List (String × ByteArray) :=
  let new := after.files.filter fun (path, content) => (before.files.lookup path) != some content
  new.mergeSort fun a b => !decide (b.1 < a.1)

end Machine

end Statechart
