import Statechart.Text.Search

namespace Statechart.Name

-- The initial pseudostate.
def initial : String := "初期状態"

-- The final pseudostate. It is written `[*]` and never declared.
def final : String := "終了状態"

-- What the editor puts into the name of a state that still has to be named.
def placeholder : String := "未定義"

-- What the editor appends to the name of the active state.
def marker : String := "#FF5555"

-- The characters of a name: ASCII and full-width digits and Latin letters, hiragana, katakana,
-- kanji, the two repetition and length marks and the ideographic zero.
def ranges : List (Char × Char) :=
  [('0', '9'), ('A', 'Z'), ('a', 'z'), ('Ａ', 'Ｚ'), ('ａ', 'ｚ'), ('０', '９'), ('ぁ', 'ん'), ('ァ', 'ヶ'),
    ('一', '龥'), ('々', '々'), ('ー', 'ー'), ('〇', '〇')]

def isAllowed (c : Char) : Bool :=
  ranges.any fun (low, high) => low ≤ c && c ≤ high

-- A text without its markers, found from the left. A marker that comes about when the text
-- around another closes up stays.
def unmark : List Char → List Char
  | '#' :: 'F' :: 'F' :: '5' :: '5' :: '5' :: '5' :: rest => unmark rest
  | c :: rest => c :: unmark rest
  | [] => []

def plain (name : String) : String :=
  String.ofList (unmark name.toList)

-- Markers apart, a name has only allowed characters; the empty name is one.
def isValid (name : String) : Bool :=
  (unmark name.toList).all isAllowed

def isReserved (name : String) : Bool :=
  name == initial || name == final

def isUndefined (name : String) : Bool :=
  Text.mentions name placeholder

def isMarked (name : String) : Bool :=
  Text.mentions name marker

-- How a name is written as the target of an edge.
def token (name : String) : String :=
  if name = final then "[*]" else name

end Statechart.Name
