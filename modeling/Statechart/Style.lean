import Statechart.Json.Merge
import Statechart.Json.Parser
import Statechart.Json.Path
import Statechart.Text.Quoted
import Statechart.Text.Segments

namespace Statechart

-- How a diagram looks: a document whose values are found along dotted paths.
structure Style where
  document : Json

-- Why a document is no style.
inductive StyleError where
  | notAnObject
  | breaksLine (path : String) (value : String)
deriving DecidableEq

def StyleError.message : StyleError → String
  | .notAnObject => "config root must be a JSON object"
  | .breaksLine path value => path ++ " must not contain quotes or line breaks: " ++ Text.quoted value

namespace Style

def colorPath : String := "highlight.color"
def fontPath : String := "font.family"
def defaultColor : String := "orange"
def defaultFont : String := "Noto Sans JP"

def standard : Style where
  document := .object
    [("highlight", .object [("color", .string defaultColor)]),
      ("font", .object [("family", .string defaultFont)])]

def empty : Style where
  document := .object []

-- The text at a dotted path.
def get? (s : Style) (path : String) : Option String :=
  s.document.followString (Text.segments '.' path)

def color (s : Style) : String :=
  (s.get? colorPath).getD defaultColor

def font (s : Style) : String :=
  (s.get? fontPath).getD defaultFont

-- Puts a value at a dotted path. Only an object can take it.
def set (s : Style) (path : String) (value : Json) : Style :=
  match s.document with
  | .object members => ⟨.object (Json.assign members value (Text.segments '.' path))⟩
  | _ => s

def overlay (s : Style) (document : Json) : Style :=
  ⟨s.document.merge document⟩

-- A site's style over a base; what the site does not set stays.
def withSite (base site : Style) : Style :=
  base.overlay site.document

-- Text that would break out of its line in the diagram.
def breaksLine (value : String) : Bool :=
  value.toList.any fun c => c = '"' || Text.isControl c

def check (s : Style) (path : String) : Except StyleError Unit :=
  match s.get? path with
  | some value => if breaksLine value then .error (.breaksLine path value) else .ok ()
  | none => .ok ()

def validate (s : Style) : Except StyleError Unit :=
  match s.check fontPath with
  | .error e => .error e
  | .ok () => s.check colorPath

-- The style that a document holds.
def ofJson (document : Json) : Except StyleError Style :=
  if document.isObject then
    match (⟨document⟩ : Style).validate with
    | .error e => .error e
    | .ok () => .ok ⟨document⟩
  else .error .notAnObject

end Style

end Statechart
