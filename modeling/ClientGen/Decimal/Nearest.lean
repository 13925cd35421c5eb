/-!
# The binary64 value nearest a decimal

`nearestBits negative digits exp` is the double nearest `± digits * 10^exp`, a tie going to
the even mantissa, as bits. Values beyond the largest double become infinity and values
below half the least subnormal become zero. The mantissa is found by exact division, so no
rounding happens twice.
-/
namespace ClientGen.Decimal

/-- `⌊num * 2^(-e) / den⌋` and whether the division left a remainder, and where the
remainder stands against half the divisor. -/
def scaledQuotient (num den : Nat) (e : Int) : Nat × Ordering :=
  let n := num * Nat.pow 2 (-e).toNat
  let d := den * Nat.pow 2 e.toNat
  (n / d, compare (2 * (n % d)) d)

/-- The quotient rounded to nearest, a tie to even. -/
def roundedQuotient (num den : Nat) (e : Int) : Nat :=
  match scaledQuotient num den e with
  | (q, .lt) => q
  | (q, .gt) => q + 1
  | (q, .eq) => if q % 2 = 0 then q else q + 1

/-- The binary exponent `e` that puts `num / den * 2^(-e)` in `[2^52, 2^53)`, from an
estimate corrected by at most `fuel` steps. -/
def alignExponent (num den : Nat) : Nat → Int → Int
  | 0, e => e
  | fuel + 1, e =>
    let q := (scaledQuotient num den e).1
    if q ≥ Nat.pow 2 53 then alignExponent num den fuel (e + 1)
    else if q < Nat.pow 2 52 then alignExponent num den fuel (e - 1)
    else e

/-- The bits of the double nearest `num / den`, for a positive value, with the sign bit
set when `negative`. -/
def nearestOfRatio (negative : Bool) (num den : Nat) : UInt64 :=
  let sign : UInt64 := if negative then 0x8000000000000000 else 0
  let estimate : Int := (num.log2 : Int) - den.log2 - 52
  let e := max (alignExponent num den 8 estimate) (-1074)
  let m := roundedQuotient num den e
  let (m, e) := if m = Nat.pow 2 53 then (Nat.pow 2 52, e + 1) else (m, e)
  if m < Nat.pow 2 52 then sign ||| m.toUInt64
  else if e + 1075 > 2046 then sign ||| 0x7FF0000000000000
  else sign ||| ((e + 1075).toNat.toUInt64 <<< 52) ||| (m - Nat.pow 2 52).toUInt64

/-- The bits of the double nearest `± digits * 10^exp`. -/
def nearestBits (negative : Bool) (digits : Nat) (exp : Int) : UInt64 :=
  let sign : UInt64 := if negative then 0x8000000000000000 else 0
  let size : Int := (toString digits).length
  if digits = 0 || size + exp < -400 then sign
  else if size + exp > 400 then sign ||| 0x7FF0000000000000
  else if 0 ≤ exp then nearestOfRatio negative (digits * Nat.pow 10 exp.toNat) 1
  else nearestOfRatio negative digits (Nat.pow 10 (-exp).toNat)

end ClientGen.Decimal
