/-!
# Shortest decimal digits of a binary64 value

A finite double stands for the interval of reals that round to it. `Binary.shortest` picks
the decimal with the fewest significant digits inside that interval, and of two such
decimals the one nearer the value, an exact tie going to the even last digit. The search
tries the grids `10^(k-1)`, `10^(k-2)`, … below the value's scale `10^k` and tests the value's
two neighbours on each grid with exact natural-number arithmetic.

`Binary.exactDecimal` gives the exact value, used for integral values and as the answer
when no grid of seventeen digits or fewer has a hit.
-/
namespace ClientGen.Decimal

/-- A finite non-negative binary64 value `m * 2^q`. -/
structure Binary where
  m : Nat
  q : Int
  /-- The gap to the value below is half the gap to the value above. -/
  narrowBelow : Bool

/-- The magnitude of a finite value, read off its bits; the sign bit is ignored. -/
def Binary.ofBits (b : UInt64) : Binary :=
  let e := ((b >>> 52) &&& 0x7FF).toNat
  let f := (b &&& 0xFFFFFFFFFFFFF).toNat
  if e = 0 then ⟨f, -1074, false⟩ else ⟨Nat.pow 2 52 + f, (e : Int) - 1075, f = 0 && e > 1⟩

/-- The decimal `digits * 10^exp`. -/
structure Dec where
  digits : Nat
  exp : Int
  deriving Repr, DecidableEq

/-- Compares `a * 10^i` with `n * 2^j` exactly. -/
def cmpScaled (a : Nat) (i : Int) (n : Nat) (j : Int) : Ordering :=
  compare (a * Nat.pow 10 i.toNat * Nat.pow 2 (-j).toNat)
    (n * Nat.pow 2 j.toNat * Nat.pow 10 (-i).toNat)

/-- The decimal lies among the reals that round to the value, ties to even: between the
halfway points to both neighbours, which count when the mantissa is even. -/
def Binary.readsBack (x : Binary) (d : Dec) : Bool :=
  let lo := if x.narrowBelow then 4 * x.m - 1 else 4 * x.m - 2
  let hi := 4 * x.m + 2
  let incl := x.m % 2 = 0
  let cl := cmpScaled d.digits d.exp lo (x.q - 2)
  let ch := cmpScaled d.digits d.exp hi (x.q - 2)
  (cl == .gt || (incl && cl == .eq)) && (ch == .lt || (incl && ch == .eq))

/-- Whether the value is below `10^k`. -/
def Binary.below (x : Binary) (k : Int) : Bool := cmpScaled 1 k x.m x.q == .gt

/-- Moves an estimate `k` of the scale up until the value is below `10^k`, at most
`fuel` steps. -/
def Binary.raiseScale (x : Binary) : Nat → Int → Int
  | 0, k => k
  | fuel + 1, k => if x.below k then k else x.raiseScale fuel (k + 1)

/-- Moves `k` down while the value stays below `10^(k-1)`, at most `fuel` steps. -/
def Binary.lowerScale (x : Binary) : Nat → Int → Int
  | 0, k => k
  | fuel + 1, k => if x.below (k - 1) then x.lowerScale fuel (k - 1) else k

/-- The least `k` with the value below `10^k`, for a non-zero value: an estimate from the
binary logarithm, `log10 2 ≈ 0.30103`, corrected by exact comparisons. -/
def Binary.scale (x : Binary) : Int :=
  let e2 : Int := (x.m.log2 : Int) + x.q
  let estimate := (e2 * 30103).fdiv 100000
  x.lowerScale 4 (x.raiseScale 4 estimate)

/-- `⌊m * 2^q / 10^e⌋`. -/
def Binary.floorOn (x : Binary) (e : Int) : Nat :=
  (x.m * Nat.pow 2 x.q.toNat * Nat.pow 10 (-e).toNat) /
    (Nat.pow 2 (-x.q).toNat * Nat.pow 10 e.toNat)

/-- Drops trailing zero digits into the exponent; the value stays. -/
def Dec.trim (d : Dec) : Dec :=
  go d.digits.log2 d
where
  /-- At most `fuel` zeros are dropped; a number has fewer zeros than bits. -/
  go : Nat → Dec → Dec
    | 0, d => d
    | fuel + 1, d =>
      if d.digits ≠ 0 && d.digits % 10 = 0 then go fuel ⟨d.digits / 10, d.exp + 1⟩ else d

/-- The best decimal on the grid `10^e`, if one of the value's two neighbours on it reads
back: the nearer one, or on a tie the one with an even last digit. -/
def Binary.onGrid (x : Binary) (e : Int) : Option Dec :=
  let a := x.floorOn e
  let down : Dec := ⟨a, e⟩
  let up : Dec := ⟨a + 1, e⟩
  match x.readsBack down, x.readsBack up with
  | true, true =>
    -- compare twice the value with the midpoint `(2a + 1) * 10^e`
    match cmpScaled (2 * a + 1) e (2 * x.m) x.q with
    | .gt => some down
    | .lt => some up
    | .eq => some (if a % 2 = 0 then down else up)
  | true, false => some down
  | false, true => some up
  | false, false => none

/-- The exact decimal value of `m * 2^q`. -/
def Binary.exactDecimal (x : Binary) : Dec :=
  if 0 ≤ x.q then ⟨x.m * Nat.pow 2 x.q.toNat, 0⟩ else ⟨x.m * Nat.pow 5 (-x.q).toNat, x.q⟩

/-- The shortest decimal that reads back, nearest of those; zero is `0`. -/
def Binary.shortest (x : Binary) : Dec :=
  if x.m = 0 then ⟨0, 0⟩
  else
    let k := x.scale
    match (List.range 17).findSome? (fun n => x.onGrid (k - (n + 1 : Nat))) with
    | some d => d.trim
    | none => x.exactDecimal.trim

/-- The digits of a decimal as text, with the position of the decimal point: the value is
`0.d₁d₂… * 10^point`. -/
def Dec.digitsAndPoint (d : Dec) : String × Int :=
  let text := toString d.digits
  (text, d.exp + text.length)

end ClientGen.Decimal
