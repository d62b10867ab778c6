import Statechart.Command.Run

namespace Statechart

-- What the operating system reports about a path. Some of its calls give the code of an error negated.
def FileError.ofReport : IO.Error → FileError
  | .noFileOrDirectory .. => .missing
  | .inappropriateType _ code _ => if code = 20 ∨ code = -20 then .notADirectory else .isADirectory
  | report => .other (toString report)

def attempt {α : Type} (action : IO α) : IO (Except FileError α) := do
  return (← action.toBaseIO).mapError FileError.ofReport

-- An entry of a directory; its path is given by text.
def entryAt (directory name : String) : IO.FS.DirEntry :=
  { root := directory, fileName := name }

def kindOf (entry : IO.FS.DirEntry) : IO EntryKind := do
  match (← entry.path.metadata).type with
  | .file => return .file
  | .dir => return .directory
  | _ => return .other

-- The machine that the program runs on.
instance : Host IO where
  input := attempt do (← IO.getStdin).readBinToEnd
  read path := attempt (IO.FS.readBinFile path)
  list path := attempt do
    (← (entryAt path "").root.readDir).toList.mapM fun entry => return (entry.fileName, ← kindOf entry)
  write path text := attempt (IO.FS.writeFile path text)

end Statechart

def main (words : List String) : IO UInt32 := do
  let outcome ← Statechart.runCommandLine (← IO.getEnv "RUST_LOG") words
  IO.eprint outcome.diagnostics
  IO.print outcome.output
  return outcome.status
