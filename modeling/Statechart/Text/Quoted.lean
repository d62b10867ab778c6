import Statechart.Text.ExtendingMark
import Statechart.Text.Printable

namespace Statechart.Text

-- The characters of the Unicode category Cc.
def isControl (c : Char) : Bool :=
  c.toNat < 0x20 || (0x7F ≤ c.toNat && c.toNat ≤ 0x9F)

-- A character as it stands between the quotes of a diagnostic.
def quotedChar (c : Char) : List Char :=
  if c = '"' then ['\\', '"']
  else if c = '\\' then ['\\', '\\']
  else if c = '\t' then ['\\', 't']
  else if c = '\r' then ['\\', 'r']
  else if c = '\n' then ['\\', 'n']
  else if c.toNat = 0 then ['\\', '0']
  else if isPrintable c && !isExtendingMark c then [c]
  else ['\\', 'u', '{'] ++ Nat.toDigits 16 c.toNat ++ ['}']

-- A text in quotes on one line: quotes and backslashes are escaped, and so is every character that
-- is not seen, or only on the one before it.
def quoted (s : String) : String :=
  String.ofList ('"' :: s.toList.flatMap quotedChar ++ ['"'])

end Statechart.Text
