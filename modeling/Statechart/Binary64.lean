namespace Statechart

-- A finite binary64 number, mantissa · 2 ^ exponent with a sign of its own. A mantissa has at most
-- 53 bits, and fewer only under the smallest exponent. That leaves one form for each number, so
-- equal numbers of one sign are equal values.
structure Binary64 where
  negative : Bool
  mantissa : Nat
  exponent : Int
  mantissa_lt : mantissa < 0x20000000000000
  exponent_range : -1074 ≤ exponent ∧ exponent ≤ 971
  normal : 0x10000000000000 ≤ mantissa ∨ exponent = -1074
deriving DecidableEq

namespace Binary64

def zero (negative : Bool) : Binary64 :=
  ⟨negative, 0, -1074, by decide, by decide, by decide⟩

def isZero (x : Binary64) : Bool :=
  x.mantissa == 0

-- A quotient rounded to the nearest whole number, a half to the even neighbour.
def roundHalfEven (num den : Nat) : Nat :=
  let q := num / den
  let r := num % den
  if den < 2 * r ∨ (2 * r = den ∧ q % 2 = 1) then q + 1 else q

-- The exponent of the largest power of two that is not above num / den.
def floorLog2 (num den : Nat) : Int :=
  let e : Int := (num.log2 : Int) - den.log2
  if den * Nat.pow 2 e.toNat ≤ num * Nat.pow 2 (-e).toNat then e else e - 1

-- The number nearest to num / den, a tie to the even mantissa. None when it would be infinite.
def ofRatio? (negative : Bool) (num den : Nat) : Option Binary64 :=
  if num = 0 then some (zero negative)
  else
    let e : Int := max (-1074) (floorLog2 num den - 52)
    let m := roundHalfEven (num * Nat.pow 2 (-e).toNat) (den * Nat.pow 2 e.toNat)
    let (m, e) := if m = 0x20000000000000 then (0x10000000000000, e + 1) else (m, e)
    if h : m < 0x20000000000000 ∧ (-1074 ≤ e ∧ e ≤ 971) ∧ (0x10000000000000 ≤ m ∨ e = -1074) then
      some ⟨negative, m, e, h.1, h.2.1, h.2.2⟩
    else none

-- The magnitude of a number is num / den.
def num (x : Binary64) : Nat :=
  x.mantissa * Nat.pow 2 x.exponent.toNat

def den (x : Binary64) : Nat :=
  Nat.pow 2 (-x.exponent).toNat

-- The number nearest to a product, and to a quotient by a number other than zero.
def product? (x y : Binary64) : Option Binary64 :=
  ofRatio? (x.negative != y.negative) (x.num * y.num) (x.den * y.den)

def quotient? (x y : Binary64) : Option Binary64 :=
  ofRatio? (x.negative != y.negative) (x.num * y.den) (x.den * y.num)

-- The largest power of ten with a number of its own.
def lastPower : Nat := 308

-- The number nearest to a power of ten.
def powerOfTen? (n : Nat) : Option Binary64 :=
  ofRatio? false (Nat.pow 10 n) 1

-- A number times a power of ten. It is multiplied or divided by the number nearest to that power, and
-- by more than one where a negative power has none, with a rounding at each step. The result is not
-- always the nearest one.
def scale? (x : Binary64) (e : Int) : Option Binary64 :=
  if e.natAbs ≤ lastPower then do
    let power ← powerOfTen? e.natAbs
    if 0 ≤ e then x.product? power else x.quotient? power
  else if x.isZero then some x
  else if 0 ≤ e then none
  else do
    let power ← powerOfTen? lastPower
    (← x.quotient? power).scale? (e + lastPower)
termination_by e.natAbs
decreasing_by
  simp only [lastPower] at *
  omega

-- The number that is read for m · 10 ^ e. None when it would be infinite.
def ofDecimal? (negative : Bool) (m : Nat) (e : Int) : Option Binary64 := do
  (← ofRatio? negative m 1).scale? e

-- Three times the number nearest to 10 ^ 23 does not round to the number nearest to 3 · 10 ^ 23.
example : ofDecimal? false 3 23 ≠ ofRatio? false (3 * Nat.pow 10 23) 1 := by decide +kernel

end Binary64

end Statechart
