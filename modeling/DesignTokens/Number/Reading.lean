import DesignTokens.Number.Limit
import DesignTokens.Text.Blank
import DesignTokens.Text.Letter
import DesignTokens.Text.Quoted

/-!
# Reading numbers

Digits are read from text in a given base. A number as it is typed may have blanks around
it, a sign, and digits of any script; an integer may have single underscores between its
digits, and in base ten not more than `maxDigits` of them. A decimal with a fraction and an
exponent is rounded to the nearest float; an exponent that is out of reach gives zero or
infinity without any large power being computed.
-/

namespace DesignTokens.Number

open Text

/-- The value of a digit, letters counting from ten. -/
def digitValue? (c : Char) : Option Nat :=
  if isAsciiDigit c then some (c.toNat - 0x30)
  else if isAsciiLower c then some (c.toNat - 0x61 + 10)
  else if isAsciiUpper c then some (c.toNat - 0x41 + 10)
  else none

/-- Digits of a base read from the left, behind a number that has been read. -/
def readDigits? (base : Nat) (acc : Nat) : List Char → Option Nat
  | [] => some acc
  | c :: rest =>
      match digitValue? c with
      | some d => if d < base then readDigits? base (acc * base + d) rest else none
      | none => none

/-- A natural number of at least one digit. -/
def readNat? (base : Nat) (s : List Char) : Option Nat :=
  if s.isEmpty then none else readDigits? base 0 s

/-- The nearest float to `n * 10 ^ e`. -/
def nearestFloat (n : Nat) (e : Int) : Float :=
  let size : Int := (toString n).length
  if n == 0 || size + e < -400 then 0.0
  else if 400 < size + e then 1.0 / 0.0
  else if e < 0 then Float.ofScientific n true e.natAbs
  else Float.ofScientific n false e.toNat

/-- An exponent with an optional sign. -/
def readExponent? (s : List Char) : Option Int :=
  match s with
  | '-' :: rest => (readNat? 10 rest).map fun n => -(n : Int)
  | '+' :: rest => (readNat? 10 rest).map fun n => (n : Int)
  | _ => (readNat? 10 s).map fun n => (n : Int)

/-- A decimal without a sign: digits, at most one point, at most one exponent. -/
def readDecimal? (s : List Char) : Option Float :=
  let isMark := fun c : Char => c == 'e' || c == 'E'
  let mantissa := s.takeWhile fun c => !isMark c
  let whole := mantissa.takeWhile fun c => c != '.'
  let places := (mantissa.dropWhile fun c => c != '.').drop 1
  let exponent? := match s.dropWhile fun c => !isMark c with
    | [] => some 0
    | _ :: rest => readExponent? rest
  match readNat? 10 (whole ++ places), exponent? with
  | some n, some e => some (nearestFloat n (e - places.length))
  | _, _ => none

/-! ## Numbers as they are typed -/

/-- A blank character of ASCII, not counting the information separators. -/
def isAsciiBlank (c : Char) : Bool := c == ' ' || (9 ≤ c.toNat && c.toNat ≤ 13)

/-- A text without the ASCII blanks at both ends. -/
def trimAscii (s : List Char) : List Char :=
  ((s.dropWhile isAsciiBlank).reverse.dropWhile isAsciiBlank).reverse

/-- A character of a text that is not all ASCII, with digits of any script as ASCII digits and
blanks as spaces; what cannot belong to a number becomes a question mark. -/
def plainChar (c : Char) : Char :=
  if c.toNat < 0x7f then c
  else if isBlank c then ' '
  else match decimalDigit? c with
    | some d => Char.ofNat (0x30 + d)
    | none => '?'

/-- A number as it is typed, in ASCII and without the blanks around it. -/
def plainNumber (s : List Char) : List Char :=
  trimAscii (if s.all fun c => c.toNat < 0x80 then s else s.map plainChar)

/-- A sign, which is negative or not, and what follows. -/
def takeSign (s : List Char) : Bool × List Char :=
  match s with
  | '-' :: rest => (true, rest)
  | '+' :: rest => (false, rest)
  | _ => (false, s)

/-- A float as it is typed: a sign, then a decimal, `inf` or `nan` in any case. -/
def readFloat? (s : List Char) : Option Float :=
  let (negative, body) := takeSign (plainNumber s)
  let word := String.ofList (body.map Char.toLower)
  let size? :=
    if word == "inf" || word == "infinity" then some (1.0 / 0.0)
    else if word == "nan" then some (0.0 / 0.0)
    else readDecimal? body
  size?.map fun size => if negative then -size else size

/-- Why a text is not read as an integer. -/
inductive IntegerFault where
  | malformed
  /-- There are more digits than are read. -/
  | tooLong (digits : Nat)
deriving Repr, DecidableEq

/-- The wording of a fault, for a text that was read in a base. A text is quoted up to two
hundred characters. -/
def IntegerFault.message (text : String) (base : Nat) : IntegerFault → String
  | malformed =>
      s!"invalid literal for int() with base {base}: " ++
        String.ofList ((quoted text).toList.take 200)
  | tooLong digits => digitLimitMessage s!": value has {digits} digits"

/-- A character is a digit of a base. -/
def isDigitOf (base : Nat) (c : Char) : Bool := (digitValue? c).any fun d => d < base

/-- The digits at the front, single underscores between them left out, and what follows.
Nothing when underscores follow each other or the last digit. -/
def takeGrouped? (base : Nat) : List Char → Option (List Char × List Char)
  | '_' :: c :: rest =>
      if isDigitOf base c then
        (takeGrouped? base rest).map fun (digits, behind) => (c :: digits, behind)
      else none
  | '_' :: [] => none
  | c :: rest =>
      if isDigitOf base c then
        (takeGrouped? base rest).map fun (digits, behind) => (c :: digits, behind)
      else some ([], c :: rest)
  | [] => some ([], [])

/-- The letters that mark a base behind a zero. -/
def baseMarks (base : Nat) : List Char :=
  if base == 2 then ['b', 'B'] else if base == 8 then ['o', 'O']
  else if base == 16 then ['x', 'X'] else []

/-- What follows the mark of a base, behind which one underscore may stand. -/
def dropBaseMark (base : Nat) (s : List Char) : List Char :=
  match s with
  | '0' :: c :: rest =>
      if (baseMarks base).contains c then
        match rest with
        | '_' :: digits => digits
        | _ => rest
      else s
  | _ => s

/-- An integer of a base as it is typed. Bases that are powers of two have no limit on the
number of digits. -/
def readInteger (base : Nat) (s : List Char) : Except IntegerFault Int :=
  let (negative, body) := takeSign (plainNumber s)
  match dropBaseMark base body with
  | '_' :: _ => .error .malformed
  | body =>
      match takeGrouped? base body with
      | none => .error .malformed
      | some (digits, behind) =>
          if baseMarks base == [] && maxDigits < digits.length then
            .error (.tooLong digits.length)
          else match readNat? base digits, behind with
            | some n, [] => .ok (if negative then -(n : Int) else n)
            | _, _ => .error .malformed

end DesignTokens.Number
