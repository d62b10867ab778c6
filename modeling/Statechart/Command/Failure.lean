import Statechart.Command.Options
import Statechart.Failure

namespace Statechart

-- Why a run of a command has no answer: it is not used as it has to be, the text that it is given is
-- no document, or the request that it makes has no answer.
inductive CommandFailure where
  | usage
  | syntaxError (reason : Json.SyntaxError)
  | request (reason : Failure)
deriving DecidableEq

def CommandFailure.message : CommandFailure → String
  | .usage => Statechart.usage
  | .syntaxError reason => "JSON error: " ++ reason.message
  | .request reason => reason.message

end Statechart
