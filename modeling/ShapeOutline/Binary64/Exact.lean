/-!
# Binary64 numbers as exact fractions

A finite floating-point number is an integer times a power of two. Here it is taken apart, and what
needs more digits than it has is computed over the integers: the remainder of a division, the
nearest decimal with a given number of places, and the hypotenuse.
-/

namespace ShapeOutline.Binary64

/-- The number `mantissa * 2 ^ exponent`, with its sign. -/
structure Dyadic where
  negative : Bool
  mantissa : Nat
  exponent : Int

/-- The value of a finite number. -/
def Dyadic.ofFloat (x : Float) : Dyadic :=
  let bits := x.toBits.toNat
  let one := Nat.pow 2 52
  let field := bits / one % 2048
  let fraction := bits % one
  let negative := bits.testBit 63
  if field = 0 then ⟨negative, fraction, -1074⟩
  else ⟨negative, one + fraction, (field : Int) - 1075⟩

/-- The integer nearest to `n / d`, halves to the even one. -/
def nearestQuotient (n d : Nat) : Nat :=
  let q := n / d
  match compare (2 * (n % d)) d with
  | .lt => q
  | .gt => q + 1
  | .eq => if q % 2 = 0 then q else q + 1

/-- `x * 10 ^ places` as an integer, halves to the even neighbour; `places` may be negative. -/
def decimalUnits (places : Int) (x : Float) : Int :=
  let v := Dyadic.ofFloat x
  let n := v.mantissa * Nat.pow 2 v.exponent.toNat * Nat.pow 10 places.toNat
  let d := Nat.pow 2 (-v.exponent).toNat * Nat.pow 10 (-places).toNat
  let u := nearestQuotient n d
  if v.negative then -(u : Int) else u

/-- A number with the magnitude of `x` and the given sign. -/
def withSign (negative : Bool) (x : Float) : Float := if negative then -x.abs else x.abs

/-- The remainder of `x` by `y` with the sign of `x`, exactly. -/
def remainder (x y : Float) : Float :=
  if !x.isFinite || y.isNaN || y == 0 then 0 / 0
  else if y.isInf then x
  else
    let a := Dyadic.ofFloat x
    let b := Dyadic.ofFloat y
    let e := min a.exponent b.exponent
    let n := a.mantissa * Nat.pow 2 (a.exponent - e).toNat
    let m := b.mantissa * Nat.pow 2 (b.exponent - e).toNat
    withSign a.negative ((Float.ofNat (n % m)).scaleB e)

/-- `x` without its fraction. -/
def truncate (x : Float) : Float := if x < 0 then x.ceil else x.floor

/-- The length of `(x, y)`. Both are brought near one first, so that no square overflows or
vanishes. -/
def hypotenuse (x y : Float) : Float :=
  if x.isInf || y.isInf then 1 / 0
  else
    let a := x.abs
    let b := y.abs
    let large := if a < b then b else a
    if large == 0 || large.isNaN || a.isNaN || b.isNaN then a + b
    else
      let e := large.frExp.2
      let u := a.scaleB (-e)
      let v := b.scaleB (-e)
      (u * u + v * v).sqrt.scaleB e

/-- `base ^ n` by repeated squaring, times `acc`. -/
def powerFrom (base acc : Float) (n : Nat) : Float :=
  if h : n = 0 then acc
  else powerFrom (base * base) (if n % 2 = 1 then acc * base else acc) (n / 2)
termination_by n
decreasing_by omega

/-- The power of ten with an integer exponent; a negative one gives the reciprocal of the positive
power. -/
def powerOfTen (k : Int) : Float :=
  let p := powerFrom 10 1 k.natAbs
  if k < 0 then 1 / p else p

/-- The smaller of two numbers, or the one that is a number. -/
def lesser (x y : Float) : Float :=
  if x.isNaN then y else if y.isNaN then x else if y < x then y else x

/-- The larger of two numbers, or the one that is a number. -/
def greater (x y : Float) : Float :=
  if x.isNaN then y else if y.isNaN then x else if x < y then y else x

end ShapeOutline.Binary64
