import Statechart.Notice
import Statechart.Text.Quoted

namespace Statechart

-- How much an event matters, most first.
inductive Level where
  | error
  | warn
  | info
  | debug
  | trace
deriving DecidableEq, Repr

namespace Level

def rank : Level → Nat
  | .error => 1
  | .warn => 2
  | .info => 3
  | .debug => 4
  | .trace => 5

-- The label of a level, to the right of five columns.
def label : Level → String
  | .error => "ERROR"
  | .warn => " WARN"
  | .info => " INFO"
  | .debug => "DEBUG"
  | .trace => "TRACE"

end Level

-- The least important level that is shown; none when nothing is.
abbrev Threshold := Option Level

namespace Threshold

def admits (t : Threshold) (level : Level) : Bool :=
  match t with
  | some least => level.rank ≤ least.rank
  | none => false

-- A threshold by its name.
def ofName? (name : String) : Option Threshold :=
  [("off", none), ("error", some .error), ("warn", some .warn), ("info", some .info), ("debug", some .debug),
    ("trace", some .trace)].lookup name

-- The threshold that the environment names, or else the one that the command line asks for.
def choose (environment : Option String) (verbose : Bool) : Threshold :=
  (environment.bind ofName?).getD (if verbose then some .debug else some .warn)

end Threshold

-- What a command tells about its run.
inductive Event where
  | skippedEntry (index : Nat) (kind : String)
  | rejected (notice : Notice)
  | generated (bytes : Nat)
  | skippedTask (task : String) (count : Nat)
  | failed (message : String)
deriving DecidableEq

namespace Event

def level : Event → Level
  | .skippedEntry _ _ => .debug
  | .rejected _ => .debug
  | .generated _ => .info
  | .skippedTask _ _ => .warn
  | .failed _ => .error

def describe : Event → String
  | .skippedEntry index kind =>
      "skipping non-object state entry index=" ++ toString index ++ " kind=" ++ Text.quoted kind
  | .rejected notice => "state machine rejected notice=" ++ notice.label
  | .generated bytes => "diagram generated bytes=" ++ toString bytes
  | .skippedTask task count =>
      "expected exactly one JSON file in task directory; skipping task=" ++ task ++
        " count=" ++ toString count
  | .failed message => "command failed error=" ++ message

def line (e : Event) : String :=
  e.level.label ++ " " ++ e.describe ++ "\n"

-- The lines of the events that a threshold lets through.
def report (t : Threshold) (events : List Event) : String :=
  String.join ((events.filter fun e => t.admits e.level).map line)

end Event

end Statechart
