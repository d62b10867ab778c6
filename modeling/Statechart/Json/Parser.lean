import Statechart.Json.Lexeme

namespace Statechart.Json

-- An array or object part way through, and in an object the key whose value is being read.
inductive Frame where
  | list (done : List Json)
  | member (done : Members) (key : String)

-- What may follow a comma or an opening bracket.
inductive Place where
  | first
  | next

-- What a reader waits for. `element` waits for a value or the end of an array whose elements so
-- far are `done`, the last first; `key` waits likewise in an object.
inductive State where
  | value (stack : List Frame)
  | element (place : Place) (done : List Json) (stack : List Frame)
  | key (place : Place) (done : Members) (stack : List Frame)
  | colon (done : Members) (key : String) (stack : List Frame)
  | after (value : Json) (stack : List Frame)

namespace State

-- Takes a lexeme where a value has to start. No more than `limit` brackets may be open.
def startValue (limit : Nat) (stack : List Frame) (fail : Mistake → Fault) : Lexeme → Except Fault State
  | .scalar v => .ok (.after v stack)
  | .string text => .ok (.after (.string text) stack)
  | .listOpen => if stack.length < limit then .ok (.element .first [] stack) else .error (fail .nestedTooDeep)
  | .objectOpen => if stack.length < limit then .ok (.key .first [] stack) else .error (fail .nestedTooDeep)
  | .brokenString fault | .brokenScalar fault => .error fault
  | _ => .error (fail .expectedValue)

-- Takes one lexeme. `fail` gives a mistake the place of the lexeme's first byte.
def step (limit : Nat) (fail : Mistake → Fault) : State → Lexeme → Except Fault State
  | .value stack, lexeme => startValue limit stack fail lexeme
  | .element .first done stack, .listClose => .ok (.after (.array done.reverse) stack)
  | .element .next _ _, .listClose => .error (fail .trailingComma)
  | .element _ done stack, lexeme => startValue limit (.list done :: stack) fail lexeme
  | .key .first done stack, .objectClose => .ok (.after (.object done) stack)
  | .key .next _ _, .objectClose => .error (fail .trailingComma)
  | .key _ done stack, .string k => .ok (.colon done k stack)
  | .key _ _ _, .brokenString fault => .error fault
  | .key _ _ _, _ => .error (fail .expectedKey)
  | .colon done k stack, .colon => .ok (.value (.member done k :: stack))
  | .colon _ _ _, _ => .error (fail .expectedColon)
  | .after _ [], _ => .error (fail .trailingCharacters)
  | .after v (.list done :: stack), .comma => .ok (.element .next (v :: done) stack)
  | .after v (.list done :: stack), .listClose => .ok (.after (.array (v :: done).reverse) stack)
  | .after _ (.list _ :: _), _ => .error (fail .expectedListEnd)
  | .after v (.member done k :: stack), .comma => .ok (.key .next (Table.put done k v) stack)
  | .after v (.member done k :: stack), .objectClose => .ok (.after (.object (Table.put done k v)) stack)
  | .after _ (.member _ _ :: _), _ => .error (fail .expectedObjectEnd)

-- What the end of the text makes of a state.
def finish : State → Except Fault Json
  | .after v [] => .ok v
  | .value _ => .error (.atEnd .endInValue)
  | .element .first _ _ => .error (.atEnd .endInList)
  | .element .next _ _ => .error (.atEnd .endInValue)
  | .key .first _ _ => .error (.atEnd .endInObject)
  | .key .next _ _ => .error (.atEnd .endInValue)
  | .colon _ _ _ => .error (.atEnd .endInObject)
  | .after _ (.list _ :: _) => .error (.atEnd .endInList)
  | .after _ (.member _ _ :: _) => .error (.atEnd .endInObject)

end State

-- Reads a text to its end, one lexeme at a time.
def readFrom (limit : Nat) (state : State) (cs : List Char) : Except Fault Json :=
  match _h : cs.dropWhile isSpace with
  | [] => state.finish
  | c :: rest =>
      match state.step limit (fun mistake => .at mistake (c :: rest)) (Lexeme.next c rest).1 with
      | .error fault => .error fault
      | .ok next => readFrom limit next (Lexeme.next c rest).2
termination_by cs.length
decreasing_by
  have hl := length_dropWhile_le isSpace cs
  have hn := Lexeme.next_length c rest
  simp only [_h, List.length_cons] at hl
  omega

-- The document that a text holds, if no more than `limit` brackets are open at a time.
def parseWithin (limit : Nat) (text : String) : Except SyntaxError Json :=
  match readFrom limit (.value []) text.toList with
  | .ok value => .ok value
  | .error fault => .error (fault.locate text.toList)

-- How many brackets a document may have open.
def depthLimit : Nat := 127

def parse (text : String) : Except SyntaxError Json :=
  parseWithin depthLimit text

end Statechart.Json
