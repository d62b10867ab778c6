import Statechart.Binary64

namespace Statechart

-- A decimal fraction: digits · 10 ^ exponent.
structure Decimal where
  digits : Nat
  exponent : Int

namespace Decimal

-- The same fraction without trailing zeros among its digits.
def strip (d : Decimal) : Decimal :=
  if 0 < d.digits ∧ d.digits % 10 = 0 then strip ⟨d.digits / 10, d.exponent + 1⟩ else d
termination_by d.digits
decreasing_by exact Nat.div_lt_self (by omega) (by decide)

end Decimal

namespace Binary64

-- The reals that round to a number, in quarters of its last place: from four mantissas less
-- `below` to four mantissas plus two. The gap under a power of two is half as wide.
def below (x : Binary64) : Nat :=
  if x.mantissa = 0x10000000000000 ∧ -1074 < x.exponent then 1 else 2

-- The ratio of 10 ^ s to a quarter of the last place of a number.
def gridRatio (x : Binary64) (s : Int) : Nat × Nat :=
  let e := x.exponent - 2
  (Nat.pow 10 s.toNat * Nat.pow 2 (-e).toNat, Nat.pow 10 (-s).toNat * Nat.pow 2 e.toNat)

-- Whether c · 10 ^ s rounds to a number. A bound of its interval does when its mantissa is even.
def readsBack (x : Binary64) (c : Nat) (s : Int) : Bool :=
  let (a, b) := x.gridRatio s
  let low := (4 * x.mantissa - x.below) * b
  let high := (4 * x.mantissa + 2) * b
  if x.mantissa % 2 = 0 then low ≤ c * a && c * a ≤ high else low < c * a && c * a < high

-- The multiple of 10 ^ s that rounds to a number and lies nearest to it. If any multiple does,
-- one of the number's two neighbours on that grid does; a tie goes to the even multiple.
def nearestOnGrid? (x : Binary64) (s : Int) : Option Nat :=
  let (a, b) := x.gridRatio s
  let value := 4 * x.mantissa * b
  let c := value / a
  let down := value - c * a
  let up := (c + 1) * a - value
  match x.readsBack c s, x.readsBack (c + 1) s with
  | true, true => if down < up ∨ (down = up ∧ c % 2 = 0) then some c else some (c + 1)
  | true, false => some c
  | false, true => some (c + 1)
  | false, false => none

-- The exponent of the largest power of ten that is not above a positive number.
def floorLog10 (x : Binary64) : Int :=
  let e : Int := ((Nat.toDigits 10 x.num).length : Int) - (Nat.toDigits 10 x.den).length
  if x.den * Nat.pow 10 e.toNat ≤ x.num * Nat.pow 10 (-e).toNat then e else e - 1

-- All digits of a number.
def exact (x : Binary64) : Decimal :=
  ⟨x.num * Nat.pow 5 (-x.exponent).toNat, min x.exponent 0⟩

-- The fewest digits that round to a number's magnitude, and of those the nearest to it. Seventeen
-- digits are always enough.
def shortest (x : Binary64) : Decimal :=
  let top := x.floorLog10
  let found := (List.range 17).findSome? fun (n : Nat) =>
    (x.nearestOnGrid? (top - n)).map fun c => (⟨c, top - n⟩ : Decimal)
  (found.getD x.exact).strip

end Binary64

end Statechart
