namespace Statechart.Text

-- Whether `needle` stands somewhere in a text.
def occurs (needle : List Char) : List Char → Bool
  | [] => needle.isEmpty
  | c :: rest => needle.isPrefixOf (c :: rest) || occurs needle rest

def mentions (text needle : String) : Bool :=
  occurs needle.toList text.toList

end Statechart.Text
