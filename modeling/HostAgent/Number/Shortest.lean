import HostAgent.Number.Binary64

set_option autoImplicit false

/-! # The fewest digits that read back

The reals that round to a number form an interval around it, with its ends included when the
mantissa is even. Among the decimals in that interval the shortest one names the number; of
two such the nearer, and of two equally near the even one.

The search goes through the decimal grids from coarse to fine. On each it tests the two grid
points around the number, for if any point of a grid lies in the interval, one of these does.
-/

namespace HostAgent

/-- The decimal `0.d₁d₂… · 10^point`, where `d₁d₂…` are the digits of `digits`. -/
structure DecimalForm where
  digits : Nat
  point : Int
deriving DecidableEq, Repr

namespace Binary64

/-- Whether `a · 10^i ≤ b · 2^j`. -/
def leScaled (a : Nat) (i : Int) (b : Nat) (j : Int) : Bool :=
  a * Nat.pow 10 i.toNat * Nat.pow 2 (-j).toNat ≤ b * Nat.pow 2 j.toNat * Nat.pow 10 (-i).toNat

/-- Whether `a · 10^i < b · 2^j`. -/
def ltScaled (a : Nat) (i : Int) (b : Nat) (j : Int) : Bool :=
  a * Nat.pow 10 i.toNat * Nat.pow 2 (-j).toNat < b * Nat.pow 2 j.toNat * Nat.pow 10 (-i).toNat

/-- Whether `digits · 10^i` rounds to the magnitude of `x`. -/
def readsBack (x : Binary64) (digits : Nat) (i : Int) : Bool :=
  let narrow := x.mantissa == Nat.pow 2 52 && minExponent < x.exponent
  let low := 4 * x.mantissa - (if narrow then 1 else 2)
  let high := 4 * x.mantissa + 2
  let e := x.exponent - 2
  if x.mantissa % 2 = 0 then !ltScaled digits i low e && leScaled digits i high e
  else !leScaled digits i low e && ltScaled digits i high e

/-- The least `p` with `x < 10^p`, for a number that is not zero. -/
def pointPosition (x : Binary64) : Int :=
  let start : Int := ((Nat.log2 x.mantissa : Int) + x.exponent) * 30103 / 100000 - 1
  match [0, 1, 2, 3].find? fun k : Nat => !leScaled 1 (start + k) x.mantissa x.exponent with
  | some k => start + k
  | none => start + 4

/-- The point of the grid `10^i` that reads back, if there is one. -/
def gridPoint (x : Binary64) (i : Int) : Option Nat :=
  let below :=
    x.mantissa * Nat.pow 2 x.exponent.toNat * Nat.pow 10 (-i).toNat
      / (Nat.pow 2 (-x.exponent).toNat * Nat.pow 10 i.toNat)
  match x.readsBack below i, x.readsBack (below + 1) i with
  | true, false => some below
  | false, true => some (below + 1)
  | false, false => none
  | true, true =>
    -- twice the number against the sum of the two points
    if ltScaled (2 * below + 1) i (2 * x.mantissa) x.exponent then some (below + 1)
    else if leScaled (2 * below + 1) i (2 * x.mantissa) x.exponent then
      some (below + below % 2)
    else some below

/-- The first grid with a point that reads back, from `n` digits on. -/
def search (x : Binary64) (point : Int) : List Nat → DecimalForm
  | [] => ⟨0, point⟩
  | n :: rest =>
    match x.gridPoint (point - n) with
    | some digits => if digits = Nat.pow 10 n then ⟨1, point + 1⟩ else ⟨digits, point⟩
    | none => search x point rest

/-- The shortest decimal of the magnitude of a number that is not zero. -/
def shortest (x : Binary64) : DecimalForm := search x x.pointPosition (List.range' 1 17)

end Binary64

end HostAgent
