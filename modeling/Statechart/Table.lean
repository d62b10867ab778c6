namespace Statechart.Table

variable {α : Type}

-- The value of the first entry with a key.
def get? (entries : List (String × α)) (key : String) : Option α :=
  entries.lookup key

-- A key that is there keeps its place, a new one goes to the end.
def put (entries : List (String × α)) (key : String) (value : α) : List (String × α) :=
  match entries with
  | [] => [(key, value)]
  | (k, v) :: rest => if k = key then (k, value) :: rest else (k, v) :: put rest key value

def keys (entries : List (String × α)) : List String :=
  entries.map Prod.fst

def hasKey (entries : List (String × α)) (key : String) : Bool :=
  (keys entries).contains key

end Statechart.Table
