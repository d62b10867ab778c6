namespace Statechart.Json

-- What a text can do wrong.
inductive Mistake where
  | endInValue
  | endInList
  | endInObject
  | endInString
  | expectedValue
  | expectedWord
  | expectedListEnd
  | expectedObjectEnd
  | expectedColon
  | expectedKey
  | trailingComma
  | trailingCharacters
  | invalidNumber
  | numberOutOfRange
  | invalidEscape
  | loneSurrogate
  | unfinishedSurrogate
  | controlCharacter
  | nestedTooDeep
deriving DecidableEq

def Mistake.describe : Mistake → String
  | .endInValue => "EOF while parsing a value"
  | .endInList => "EOF while parsing a list"
  | .endInObject => "EOF while parsing an object"
  | .endInString => "EOF while parsing a string"
  | .expectedValue => "expected value"
  | .expectedWord => "expected ident"
  | .expectedListEnd => "expected `,` or `]`"
  | .expectedObjectEnd => "expected `,` or `\x7d`"
  | .expectedColon => "expected `:`"
  | .expectedKey => "key must be a string"
  | .trailingComma => "trailing comma"
  | .trailingCharacters => "trailing characters"
  | .invalidNumber => "invalid number"
  | .numberOutOfRange => "number out of range"
  | .invalidEscape => "invalid escape"
  | .loneSurrogate => "lone leading surrogate in hex escape"
  | .unfinishedSurrogate => "unexpected end of hex escape"
  | .controlCharacter => "control character (\\u0000-\\u001F) found while parsing a string"
  | .nestedTooDeep => "recursion limit exceeded"

-- How many bytes a text takes in UTF-8.
def byteCount : List Char → Nat
  | [] => 0
  | c :: rest => c.utf8Size + byteCount rest

-- A mistake, and how many bytes of the text are left behind the last one that was read.
structure Fault where
  mistake : Mistake
  bytesLeft : Nat

-- Where a reader stands after some bytes of a text: the line, counted from one, and how many
-- bytes of it are read.
def position (bytes : Nat) : List Char → Nat × Nat
  | [] => (1, 0)
  | c :: rest =>
      if bytes = 0 then (1, 0)
      else if bytes < c.utf8Size then (1, bytes)
      else
        let (line, column) := position (bytes - c.utf8Size) rest
        if c = '\n' then (line + 1, column)
        else if line = 1 then (1, column + c.utf8Size)
        else (line, column)

structure SyntaxError where
  mistake : Mistake
  line : Nat
  column : Nat
deriving DecidableEq

def Fault.locate (text : List Char) (f : Fault) : SyntaxError :=
  let (line, column) := position (byteCount text - f.bytesLeft) text
  ⟨f.mistake, line, column⟩

def SyntaxError.message (e : SyntaxError) : String :=
  e.mistake.describe ++ " at line " ++ toString e.line ++ " column " ++ toString e.column

end Statechart.Json
