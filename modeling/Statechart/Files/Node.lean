import Statechart.Table

namespace Statechart

-- Why a file cannot be used.
inductive FileError where
  | missing
  | notADirectory
  | isADirectory
  | notText
  | other (description : String)
deriving DecidableEq

def FileError.message : FileError → String
  | .missing => "No such file or directory (os error 2)"
  | .notADirectory => "Not a directory (os error 20)"
  | .isADirectory => "Is a directory (os error 21)"
  | .notText => "stream did not contain valid UTF-8"
  | .other description => description

-- The text that bytes stand for.
def decodeText (bytes : ByteArray) : Except FileError String :=
  match String.fromUTF8? bytes with
  | some text => .ok text
  | none => .error .notText

inductive EntryKind where
  | file
  | directory
  | other
deriving DecidableEq, Repr

-- A file tree. The entries of a directory stand in the order in which they are listed.
inductive Node where
  | file (content : ByteArray)
  | directory (entries : List (String × Node))

namespace Node

def kind : Node → EntryKind
  | .file _ => .file
  | .directory _ => .directory

-- A file has no entries.
def entries : Node → List (String × Node)
  | .file _ => []
  | .directory es => es

def at? (node : Node) : List String → Option Node
  | [] => some node
  | name :: rest => (Table.get? node.entries name).bind (at? · rest)

-- Puts a node at the end of a row of names; directories missing on the way are made.
def graft (leaf : Node) (node : Node) : List String → Node
  | [] => leaf
  | name :: rest =>
      let inner := (Table.get? node.entries name).getD (.directory [])
      .directory (Table.put node.entries name (graft leaf inner rest))

mutual

-- All files of a tree, each with the names that lead to it.
def files : Node → List (List String × ByteArray)
  | .file content => [([], content)]
  | .directory es => entryFiles es

def entryFiles : List (String × Node) → List (List String × ByteArray)
  | [] => []
  | (name, node) :: rest => node.files.map (fun (path, content) => (name :: path, content)) ++ entryFiles rest

end

end Node

end Statechart
