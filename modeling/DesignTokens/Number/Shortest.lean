/-!
# The shortest decimal of a binary fraction

A finite floating-point number is `m * 2 ^ q`. Every real number between the midpoints to
its two neighbours reads back as it, the midpoints themselves only when `m` is even. Of the
decimals in that interval this module picks one with the fewest digits, and of those the
nearest to the number. All arithmetic is exact: a real number is a pair of natural numbers.
-/

namespace DesignTokens.Number

/-- A quotient of natural numbers, the second one positive. -/
structure Ratio where
  num : Nat
  den : Nat
deriving Repr

/-- The first quotient is at most the second. -/
def Ratio.le (a b : Ratio) : Bool := a.num * b.den ≤ b.num * a.den

/-- The first quotient is less than the second. -/
def Ratio.lt (a b : Ratio) : Bool := a.num * b.den < b.num * a.den

/-- `n * 2 ^ q`. -/
def scaled (n : Nat) (q : Int) : Ratio :=
  match q with
  | .ofNat k => ⟨n * Nat.pow 2 k, 1⟩
  | .negSucc k => ⟨n, Nat.pow 2 (k + 1)⟩

/-- `n * 10 ^ e`. -/
def decimal (n : Nat) (e : Int) : Ratio :=
  match e with
  | .ofNat k => ⟨n * Nat.pow 10 k, 1⟩
  | .negSucc k => ⟨n, Nat.pow 10 (k + 1)⟩

/-- The reals that read back as one floating-point number. -/
structure Interval where
  low : Ratio
  high : Ratio
  /-- Both ends belong to the interval. -/
  closed : Bool

/-- A real number lies in the interval. -/
def Interval.holds (i : Interval) (x : Ratio) : Bool :=
  if i.closed then i.low.le x && x.le i.high else i.low.lt x && x.lt i.high

/-- A nonzero finite number: its significand, its exponent, and whether the neighbour below
is nearer than the one above. -/
structure Binary where
  significand : Nat
  exponent : Int
  lowerIsNear : Bool
deriving Repr

/-- The value of the number. -/
def Binary.value (x : Binary) : Ratio := scaled x.significand x.exponent

/-- The reals that read back as the number. -/
def Binary.interval (x : Binary) : Interval where
  low := if x.lowerIsNear then scaled (4 * x.significand - 1) (x.exponent - 2)
    else scaled (2 * x.significand - 1) (x.exponent - 1)
  high := scaled (2 * x.significand + 1) (x.exponent - 1)
  closed := x.significand % 2 == 0

/-- The largest `k` with `10 ^ k ≤ x`, for a positive quotient. -/
def Ratio.decade (x : Ratio) : Int :=
  let digits (n : Nat) : Int := (toString n).length
  let guess := digits x.num - digits x.den
  if (decimal 1 guess).le x then guess else guess - 1

/-- The multiple of `10 ^ e` that reads back as the number, the nearer one if the two
around it both do. -/
def Binary.onGrid? (x : Binary) (e : Int) : Option Nat :=
  let v := x.value
  let unit := decimal 1 e
  let below := v.num * unit.den / (v.den * unit.num)
  let good (n : Nat) := n != 0 && x.interval.holds (decimal n e)
  match good below, good (below + 1) with
  | true, true =>
      let middle : Ratio := ⟨(2 * below + 1) * unit.num, 2 * unit.den⟩
      if v.lt middle || (v.le middle && below % 2 == 0) then some below else some (below + 1)
  | true, false => some below
  | false, true => some (below + 1)
  | false, false => none

/-- Tries the grids of `count`, `count + 1`, … digits. -/
def Binary.searchGrids (x : Binary) (decade : Int) : Nat → Nat → Option (Nat × Int)
  | 0, _ => none
  | fuel + 1, count =>
      let e := decade + 1 - count
      match x.onGrid? e with
      | some n => some (n, e)
      | none => x.searchGrids decade fuel (count + 1)

/-- Digits without zeros at the end, and the exponent that belongs to them. -/
def trimZeros : Nat → Nat → Int → Nat × Int
  | 0, n, e => (n, e)
  | fuel + 1, n, e =>
      if n != 0 && n % 10 == 0 then trimZeros fuel (n / 10) (e + 1) else (n, e)

/-- The shortest decimal `n * 10 ^ e` that reads back as the number. Seventeen digits always
do. -/
def Binary.shortest (x : Binary) : Nat × Int :=
  match x.searchGrids x.value.decade 17 1 with
  | some (n, e) => trimZeros 20 n e
  | none => (0, 0)

/-- The number of fractions of a float, which its lowest 52 bits tell apart. -/
def fractionCount : Nat := 0x10000000000000

/-- The sign bit of a float is set. -/
def signed (x : Float) : Bool := 0x8000000000000000 ≤ x.toBits.toNat

/-- The parts of a float that is neither zero nor infinite nor no number. -/
def Binary.ofFloat (x : Float) : Binary :=
  let bits := x.toBits.toNat
  let fraction := bits % fractionCount
  let biased : Nat := bits / fractionCount % 0x800
  if biased == 0 then ⟨fraction, -1074, false⟩
  else ⟨fractionCount + fraction, (biased : Int) - 1075, fraction == 0 && 1 < biased⟩

end DesignTokens.Number
