import Statechart.Command.Options
import Statechart.Command.Tasks
import Statechart.Diagram.Basic
import Statechart.Json.Printer

namespace Statechart

-- The style that options ask for over a document of the site's: their own settings win.
def Options.restyle (o : Options) (site : Style) : Style :=
  let colored := match o.color with
    | some color => site.set Style.colorPath (.string color)
    | none => site
  match o.font with
  | some font => colored.set Style.fontPath (.string font)
  | none => colored

-- What a check prints.
def Health.toJson (h : Health) : Json :=
  .object
    [("flags", .object
      [("hasInitial", .bool h.hasInitial), ("hasInvalidName", .bool h.hasInvalidName),
        ("hasMultipleInitialTransitions", .bool h.hasMultipleInitialTransitions),
        ("hasDuplicate", .bool h.hasDuplicate),
        ("hasTransitionFromInitial", .bool h.hasTransitionFromInitial)]),
      ("notice", match h.firstViolation with
        | some notice => .string notice.label
        | none => .null)]

namespace Session

variable {m : Type → Type} [Monad m] [Host m]

def printJson (o : Options) (j : Json) : String :=
  (if o.pretty then j.pretty else j.compact) ++ "\n"

-- The text of the payload, from outside unless a path is given.
def payloadText (o : Options) : Session m String :=
  match o.input with
  | none | some "-" => askText .channel Host.input
  | some path => askText .channel (Host.read path)

def siteStyle (o : Options) : Session m Style := do
  let site ← match o.config with
    | some path => do settle (parseStyle (← askText .channel (Host.read path)))
    | none => pure Style.empty
  let style := o.restyle site
  settle (style.validate.mapError .style)
  return style

-- The items of a payload. It is told which entries were left out.
def readPayload (payload : Json) : Session m (List Item) := do
  (Payload.skipped payload).forM fun (index, kind) => tell (.skippedEntry index kind)
  settle (readItems payload)

-- A diagram is asked for with the text as it is: that it is no document is a fault of the request.
def drawnItems (o : Options) : Session m (List Item) := do
  let text ← payloadText o
  readPayload (← settle (parseJson text))

-- A check parses the text by itself before it makes a request.
def checkedItems (o : Options) : CommandRun m (List Item) := do
  let text ← (payloadText o : Session m String)
  let payload ← settle ((Json.parse text).mapError .syntaxError)
  (readPayload payload : Session m (List Item))

def generate (o : Options) : Session m String := do
  let style ← siteStyle o
  let items ← drawnItems o
  let diagram := Diagram.ofItems (Style.standard.withSite style) items
  if let some notice := diagram.notice? then
    tell (.rejected notice)
  let document := diagram.render
  tell (.generated document.utf8ByteSize)
  match o.out with
  | none | some "-" => return document ++ "\n"
  | some path =>
      ask .channel (Host.write path document)
      return ""

def check (o : Options) : CommandRun m String := do
  let items ← checkedItems o
  return printJson o (Health.ofItems items).toJson

def merge (o : Options) : CommandRun m String := do
  match o.input with
  | some directory => return printJson o (← (Tasks.merge directory : Session m Json))
  | none => throw .usage

-- The run of a command; its value is what it prints.
def ofOptions (o : Options) : CommandRun m String :=
  match o.command with
  | .generate => liftM (generate o : Session m String)
  | .check => check o
  | .merge => merge o

end Session

-- What a run leaves to the shell.
structure Outcome where
  status : UInt32
  output : String
  diagnostics : String
deriving DecidableEq

-- Runs a command line. Nothing is printed by a run that fails.
def runCommandLine {m : Type → Type} [Monad m] [Host m] (environment : Option String)
    (words : List String) : m Outcome := do
  match Options.parse words with
  | none => return ⟨2, "", usage ++ "\n"⟩
  | some o =>
      let threshold := Threshold.choose environment o.verbose
      let (result, events) ← (Session.ofOptions o).run.run []
      match result with
      | .ok output => return ⟨0, output, Event.report threshold events⟩
      | .error failure =>
          let diagnostics := Event.report threshold (events ++ [.failed failure.message])
          return ⟨1, "", diagnostics ++ failure.message ++ "\n"⟩

end Statechart
