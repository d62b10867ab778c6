import Statechart.Json.Basic

namespace Statechart.Json

-- A character as it stands inside a string: only what has to be escaped is.
def escapedChar (c : Char) : List Char :=
  match c with
  | '"' => ['\\', '"']
  | '\\' => ['\\', '\\']
  | '\x08' => ['\\', 'b']
  | '\x0c' => ['\\', 'f']
  | '\n' => ['\\', 'n']
  | '\r' => ['\\', 'r']
  | '\t' => ['\\', 't']
  | c =>
      if c.toNat < 0x20 then
        ['\\', 'u', '0', '0', Nat.digitChar (c.toNat / 16), Nat.digitChar (c.toNat % 16)]
      else [c]

def stringText (s : String) : String :=
  String.ofList ('"' :: s.toList.flatMap escapedChar ++ ['"'])

-- Documents on one line, without blanks.
mutual

def compact : Json → String
  | .null => "null"
  | .bool true => "true"
  | .bool false => "false"
  | .number n => n.text
  | .string s => stringText s
  | .array elements => "[" ++ String.intercalate "," (compactElements elements) ++ "]"
  | .object members => "\x7b" ++ String.intercalate "," (compactMembers members) ++ "\x7d"

def compactElements : List Json → List String
  | [] => []
  | element :: rest => element.compact :: compactElements rest

def compactMembers : Members → List String
  | [] => []
  | (key, value) :: rest => (stringText key ++ ":" ++ value.compact) :: compactMembers rest

end

-- Encloses the parts of an array or object, each on a line of its own.
def block (opening closing : String) (depth : Nat) (parts : List String) : String :=
  if parts.isEmpty then opening ++ closing
  else
    let line := "\n" ++ String.ofList (List.replicate (2 * depth) ' ')
    opening ++ line ++ "  " ++ String.intercalate ("," ++ line ++ "  ") parts ++ line ++ closing

-- Documents with one element or member to a line, indented by two blanks a level.
mutual

def prettyAt (depth : Nat) : Json → String
  | .array elements => block "[" "]" depth (prettyElements (depth + 1) elements)
  | .object members => block "\x7b" "\x7d" depth (prettyMembers (depth + 1) members)
  | .null => "null"
  | .bool true => "true"
  | .bool false => "false"
  | .number n => n.text
  | .string s => stringText s

def prettyElements (depth : Nat) : List Json → List String
  | [] => []
  | element :: rest => element.prettyAt depth :: prettyElements depth rest

def prettyMembers (depth : Nat) : Members → List String
  | [] => []
  | (key, value) :: rest => (stringText key ++ ": " ++ value.prettyAt depth) :: prettyMembers depth rest

end

def pretty (j : Json) : String :=
  j.prettyAt 0

end Statechart.Json
