import ShapeOutline.Binary64.Exact
import ShapeOutline.Decimal

/-!
# The shortest decimal of a binary64 number

Measures, angles and rejected values are shown with the fewest digits that read back to the same
number; of two such decimals the nearer is taken, of two equally near the larger. The text has no
exponent.
-/

namespace ShapeOutline.Binary64

/-- The number `digits * 10 ^ exponent`. -/
structure Scaled where
  digits : Nat
  exponent : Int

/-- How `a * 10 ^ i` compares with `n * 2 ^ j`. -/
def compareScaled (a : Nat) (i : Int) (n : Nat) (j : Int) : Ordering :=
  compare (a * Nat.pow 10 i.toNat * Nat.pow 2 (-j).toNat)
    (n * Nat.pow 2 j.toNat * Nat.pow 10 (-i).toNat)

/-- Whether a decimal lies among the numbers that round to `v`. Their ends are halfway to the two
neighbours of `v` and belong to it when its mantissa is even; below a power of two the neighbour is
half as far away as above. -/
def Dyadic.readsBack (v : Dyadic) (c : Scaled) : Bool :=
  let narrow := v.mantissa = Nat.pow 2 52 && -1074 < v.exponent
  let low := if narrow then 4 * v.mantissa - 1 else 4 * v.mantissa - 2
  let high := 4 * v.mantissa + 2
  let even := v.mantissa % 2 = 0
  let below := compareScaled c.digits c.exponent low (v.exponent - 2)
  let above := compareScaled c.digits c.exponent high (v.exponent - 2)
  (below == .gt || (even && below == .eq)) && (above == .lt || (even && above == .eq))

/-- The two neighbours of `v` on the grid of multiples of `10 ^ e`: the nearer one that reads back,
if any does. -/
def Dyadic.onGrid? (v : Dyadic) (e : Int) : Option Scaled :=
  let n := v.mantissa * Nat.pow 2 v.exponent.toNat * Nat.pow 10 (-e).toNat
  let d := Nat.pow 2 (-v.exponent).toNat * Nat.pow 10 e.toNat
  let lower : Scaled := ⟨n / d, e⟩
  let upper : Scaled := ⟨n / d + 1, e⟩
  match v.readsBack lower, v.readsBack upper with
  | true, true => some (if 2 * (n % d) < d then lower else upper)
  | true, false => some lower
  | false, true => some upper
  | false, false => none

/-- The least exponent `k` with `v < 10 ^ k`. Three tenths of the binary exponent come close to it
from below. -/
def Dyadic.decimalExponent (v : Dyadic) : Int :=
  let bits : Int := Nat.log2 v.mantissa + 1 + v.exponent
  let guess : Int := bits * 30103 / 100000 - 1
  match [guess, guess + 1, guess + 2].find? fun k =>
      compareScaled 1 k v.mantissa v.exponent == .gt with
  | some k => k
  | none => guess + 3

/-- The shortest decimal that reads back to a positive `v`: the coarsest grid that has one. -/
def Dyadic.shortest (v : Dyadic) : Decimal :=
  let k := v.decimalExponent
  match (List.range 18).findSome? fun n : Nat => v.onGrid? (k - n) with
  | some c => Decimal.reduce ⟨c.digits * Nat.pow 10 c.exponent.toNat, (-c.exponent).toNat⟩
  | none =>
    let places := (-v.exponent).toNat
    Decimal.reduce ⟨v.mantissa * Nat.pow 2 v.exponent.toNat * Nat.pow 5 places, places⟩

/-- The text of a number with its fewest digits. -/
def shortestText (x : Float) : String :=
  if x.isNaN then "NaN"
  else
    let v := Dyadic.ofFloat x
    let magnitude :=
      if x.isInf then "inf" else if v.mantissa = 0 then "0" else String.ofList v.shortest.chars
    if v.negative then "-" ++ magnitude else magnitude

end ShapeOutline.Binary64
