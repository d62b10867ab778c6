import Statechart.Files.Node
import Statechart.Item.Payload
import Statechart.Style

namespace Statechart

-- Why a request has no answer. A model that is merely unsound has one: its diagram shows a notice.
inductive Failure where
  | model (reason : Payload.NotAnArray)
  | syntaxError (reason : Json.SyntaxError)
  | file (path : String) (reason : FileError)
  | document (path : String) (reason : Json.SyntaxError)
  | style (reason : StyleError)
  | channel (reason : FileError)
deriving DecidableEq

namespace Failure

def message : Failure → String
  | .model reason => "Invalid state machine model: expected a JSON array of states, found " ++ reason.found
  | .syntaxError reason => "JSON error: " ++ reason.message
  | .file path reason => "I/O error at " ++ path ++ ": " ++ reason.message
  | .document path reason => "Invalid JSON in " ++ path ++ ": " ++ reason.message
  | .style reason => "Invalid config: " ++ reason.message
  | .channel reason => "I/O error: " ++ reason.message

end Failure

def parseJson (text : String) : Except Failure Json :=
  (Json.parse text).mapError .syntaxError

-- The items of a payload.
def readItems (payload : Json) : Except Failure (List Item) :=
  (Payload.read payload).mapError .model

def parseItems (text : String) : Except Failure (List Item) :=
  (parseJson text).bind readItems

-- The style that a text holds.
def parseStyle (text : String) : Except Failure Style :=
  (parseJson text).bind fun document => (Style.ofJson document).mapError .style

end Statechart
