import Statechart.Binary64.Shortest
import Statechart.Text.Numeral

namespace Statechart.Json

-- A number is kept as it was written: whole numbers that fit a machine word stay exact, all
-- others are binary64. `negative n` stands for -(n + 1), so there is one form of zero among the
-- whole numbers.
inductive Number where
  | natural (value : UInt64)
  | negative (below : Fin 0x8000000000000000)
  | real (value : Binary64)
deriving DecidableEq

namespace Number

def isZero : Number → Bool
  | .natural n => n == 0
  | .negative _ => false
  | .real x => x.isZero

-- The layout of a decimal fraction: positional from 10 ^ -5 up to 10 ^ 16, always with a point,
-- otherwise one digit before the point and a signed exponent.
def layout (d : Decimal) : List Char :=
  let ds := Text.decimal d.digits
  let top : Int := d.exponent + ds.length - 1
  if -5 ≤ top ∧ top < 16 then
    if 0 ≤ d.exponent then ds ++ List.replicate d.exponent.toNat '0' ++ ['.', '0']
    else if 0 ≤ top then ds.take (top.toNat + 1) ++ '.' :: ds.drop (top.toNat + 1)
    else ['0', '.'] ++ List.replicate (-top - 1).toNat '0' ++ ds
  else
    let fraction := if ds.length = 1 then [] else '.' :: ds.drop 1
    ds.take 1 ++ fraction ++ ['e', if top < 0 then '-' else '+'] ++ Text.decimal top.natAbs

def realChars (x : Binary64) : List Char :=
  let magnitude := if x.isZero then ['0', '.', '0'] else layout x.shortest
  if x.negative then '-' :: magnitude else magnitude

def chars : Number → List Char
  | .natural n => Text.decimal n.toNat
  | .negative n => '-' :: Text.decimal (n.val + 1)
  | .real x => realChars x

def text (n : Number) : String :=
  String.ofList n.chars

end Number

end Statechart.Json
