import Statechart.Text.Blank

namespace Statechart.Text

-- The decimal digits of a number, without a leading zero.
def decimal (n : Nat) : List Char :=
  Nat.toDigits 10 n

-- The number that a row of decimal digits stands for.
def digitsValue (digits : List Char) : Nat :=
  Nat.ofDigitChars 10 digits 0

-- An index written as text: blanks around it and one plus sign before it are allowed. A numeral
-- that does not fit a machine word is no index, however many leading zeros it has.
def readIndex (s : String) : Option UInt64 :=
  let digits := match trimChars s.toList with
    | '+' :: rest => rest
    | cs => cs
  if digits.isEmpty || !digits.all Char.isDigit then none
  else if h : digitsValue digits < UInt64.size then some (UInt64.ofNatLT (digitsValue digits) h)
  else none

end Statechart.Text
