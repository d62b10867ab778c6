import Statechart.Command.Session

-- A directory of tasks holds one directory for each task, and each of them is to hold one
-- document. The documents are put into one object under the names of their tasks.
namespace Statechart.Tasks

variable {m : Type → Type} [Monad m] [Host m]

-- The path of an entry of a directory.
def join (directory name : String) : String :=
  if directory.toList.getLast? = some '/' then directory ++ name else directory ++ "/" ++ name

-- The names of the entries of one kind, sorted.
def namesOf (kind : EntryKind) (entries : List (String × EntryKind)) : List String :=
  ((entries.filter fun entry => entry.2 == kind).map Prod.fst).mergeSort fun a b => !decide (b < a)

def isDocument (name : String) : Bool :=
  ".json".toList.isSuffixOf name.toList

def list (directory : String) : Session m (List (String × EntryKind)) :=
  Session.ask (.file directory) (Host.list directory)

-- The tasks below a directory, by name.
def tasks (root : String) : Session m (List String) := do
  return namesOf .directory (← list root)

def documents (directory : String) : Session m (List String) := do
  return (namesOf .file (← list directory)).filter isDocument

def readDocument (path : String) : Session m Json := do
  let text ← Session.askText (.file path) (Host.read path)
  Session.settle ((Json.parse text).mapError (.document path))

-- Adds the document of a task. A task without exactly one document is passed over.
def addTask (root : String) (merged : Json.Members) (task : String) : Session m Json.Members := do
  let directory := join root task
  match ← documents directory with
  | [document] => return Table.put merged task (← readDocument (join directory document))
  | found =>
      Session.tell (.skippedTask task found.length)
      return merged

-- The documents of all tasks, in the order of their names. The first one that cannot be read fails
-- the whole.
def merge (root : String) : Session m Json := do
  let names ← tasks root
  return .object (← names.foldlM (addTask root) [])

end Statechart.Tasks
