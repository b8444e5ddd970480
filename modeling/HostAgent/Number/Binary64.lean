set_option autoImplicit false

/-! # Binary numbers of 64 bits

A finite `Binary64` is a sign and a value `m · 2^e`, with the 53 bits of precision and the
range of exponents that the 64-bit format has. The arithmetic is exact on natural numbers and
rounds once, to the nearest number and on a tie to the even one; a result beyond the range is
reported as missing.
-/

namespace HostAgent

/-- A finite number `± mantissa · 2^exponent`; below the least normal number the exponent is
`-1074`, otherwise the mantissa has 53 bits. -/
structure Binary64 where
  negative : Bool
  mantissa : Nat
  exponent : Int
deriving DecidableEq, Repr

namespace Binary64

/-- The least exponent. -/
def minExponent : Int := -1074

/-- The greatest exponent. -/
def maxExponent : Int := 971

/-- Positive zero. -/
def zero : Binary64 := ⟨false, 0, minExponent⟩

/-- Whether a number is zero, of either sign. -/
def isZero (x : Binary64) : Bool := x.mantissa == 0

/-- The number with the other sign. -/
def neg (x : Binary64) : Binary64 := { x with negative := !x.negative }

/-- The quotient of `num` by `den · 2^e` to the nearest natural number, a tie to even. -/
def roundQuotient (num den : Nat) (e : Int) : Nat :=
  let n := num * Nat.pow 2 (-e).toNat
  let d := den * Nat.pow 2 e.toNat
  let q := n / d
  let r := n % d
  if 2 * r < d then q
  else if d < 2 * r then q + 1
  else q + q % 2

/-- The exponent at which `num / den` has a mantissa of 53 bits, kept in the range. -/
def scale (num den : Nat) : Int :=
  let e : Int := (Nat.log2 num : Int) - Nat.log2 den - 53
  let quotient := num * Nat.pow 2 (-e).toNat / (den * Nat.pow 2 e.toNat)
  let e := if quotient < Nat.pow 2 53 then e else e + 1
  max e minExponent

/-- The number nearest to `num / den`, unless it is out of range. -/
def ofRatio (num den : Nat) : Option Binary64 :=
  if num = 0 then some zero
  else
    let e := scale num den
    let m := roundQuotient num den e
    let (m, e) := if m < Nat.pow 2 53 then (m, e) else (m / 2, e + 1)
    if e ≤ maxExponent then some ⟨false, m, e⟩ else none

/-- The number nearest to a natural number. -/
def ofNat (n : Nat) : Option Binary64 := ofRatio n 1

/-- The magnitude of a number times `num / den`, rounded. -/
def scaled (x : Binary64) (num den : Nat) : Option Binary64 :=
  (ofRatio (x.mantissa * Nat.pow 2 x.exponent.toNat * num)
    (Nat.pow 2 (-x.exponent).toNat * den)).map
    fun y => { y with negative := x.negative }

/-- The nearest number to a power of ten, which the range admits up to `10^308`. -/
def powerOfTen (n : Nat) : Binary64 := (ofNat (Nat.pow 10 n)).getD zero

/-- The numerator of the magnitude. -/
def numerator (x : Binary64) : Nat := x.mantissa * Nat.pow 2 x.exponent.toNat

/-- The denominator of the magnitude. -/
def denominator (x : Binary64) : Nat := Nat.pow 2 (-x.exponent).toNat

/-- The product, with the sign of `x`, for a nonnegative `y`. -/
def times (x y : Binary64) : Option Binary64 := x.scaled y.numerator y.denominator

/-- The quotient, with the sign of `x`, for a positive `y`; it is never out of range for
`1 ≤ y`. -/
def dividedBy (x y : Binary64) : Binary64 := (x.scaled y.denominator y.numerator).getD zero

end Binary64

end HostAgent
