import DesignTokens.Number.Shortest

/-!
# The text of a number

An integer is written in decimal. A float is written with the fewest digits that read back:
as a plain decimal with at least one place when its first digit lies between the fourth
place behind the point and the sixteenth before it, else with an exponent of at least two
digits.
-/

namespace DesignTokens.Number

/-- When a decimal is written without an exponent. -/
structure DecimalFormat where
  /-- The lowest place of a first digit that is written without an exponent. -/
  lowest : Int
  /-- The first place above which an exponent is written. -/
  highest : Int
  /-- The least number of digits of an exponent. -/
  exponentDigits : Nat

/-- Numbers in token sources stay plain from `0.0001` up to sixteen digits. -/
def tokenFormat : DecimalFormat := ⟨-4, 16, 2⟩

/-- A positive decimal `n * 10 ^ e`. -/
def DecimalFormat.render (format : DecimalFormat) (n : Nat) (e : Int) : String :=
  let digits := (toString n).toList
  let first : Int := e + digits.length - 1
  if format.lowest ≤ first && first < format.highest then
    if first < 0 then
      "0." ++ String.ofList (List.replicate (first.natAbs - 1) '0' ++ digits)
    else
      let whole := first.toNat + 1
      let places := digits.drop whole
      String.ofList (digits.take whole ++ List.replicate (whole - digits.length) '0') ++ "." ++
        (if places.isEmpty then "0" else String.ofList places)
  else
    let mantissa := match digits with
      | c :: d :: rest => String.ofList (c :: '.' :: d :: rest)
      | _ => String.ofList digits
    let size := toString first.natAbs
    mantissa ++ "e" ++ (if first < 0 then "-" else "+") ++
      String.ofList (List.replicate (format.exponentDigits - size.length) '0') ++ size

/-- The text of a float that is no number. -/
def noNumberText : String := "nan"

/-- The text of a float. -/
def floatText (x : Float) : String :=
  if x.isNaN then noNumberText
  else
    let sign := if signed x then "-" else ""
    let size :=
      if x.isInf then "inf"
      else if x == 0 then "0.0"
      else
        let (n, e) := (Binary.ofFloat x).shortest
        tokenFormat.render n e
    sign ++ size

/-- The text of an integer. -/
def intText (n : Int) : String := if n < 0 then "-" ++ toString n.natAbs else toString n.natAbs

end DesignTokens.Number
