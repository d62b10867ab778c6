import Statechart.Command.Failure
import Statechart.Command.Log
import Statechart.Command.Machine

namespace Statechart

-- What a command asks of the machine it runs on.
class Host (m : Type → Type) where
  input : m (Except FileError ByteArray)
  read : String → m (Except FileError ByteArray)
  list : String → m (Except FileError (List (String × EntryKind)))
  write : String → String → m (Except FileError Unit)

-- The machine as a value.
instance : Host (StateM Machine) where
  input := do return .ok (← get).input
  read path := do return (← get).read path
  list path := do return (← get).list path
  write path text := do
    match (← get).write path text.toUTF8 with
    | .ok machine => set machine; return .ok ()
    | .error e => return .error e

-- A run that may fail; what it told until then is kept.
abbrev Attempt (ε : Type) (m : Type → Type) := ExceptT ε (StateT (List Event) m)

-- The run of a request, and that of a command, which may make requests.
abbrev Session (m : Type → Type) := Attempt Failure m

abbrev CommandRun (m : Type → Type) := Attempt CommandFailure m

-- A request that fails is a failure of the command that makes it.
instance {m : Type → Type} [Monad m] : MonadLift (Session m) (CommandRun m) where
  monadLift session := session.adapt .request

namespace Session

variable {ε : Type} {m : Type → Type} [Monad m]

def tell (e : Event) : Attempt ε m Unit :=
  modify (· ++ [e])

-- An answer of the machine; what went wrong becomes a failure.
def ask {α : Type} (fail : FileError → ε) (answer : m (Except FileError α)) : Attempt ε m α := do
  match ← (answer : m _) with
  | .ok a => return a
  | .error e => throw (fail e)

def settle {α : Type} : Except ε α → Attempt ε m α
  | .ok a => return a
  | .error e => throw e

def askText (fail : FileError → ε) (answer : m (Except FileError ByteArray)) : Attempt ε m String := do
  let bytes ← ask fail answer
  settle ((decodeText bytes).mapError fail)

end Session

end Statechart
