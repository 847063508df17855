import DesignTokens.Number.Reading
import DesignTokens.Source.Scalar
import DesignTokens.Text.Case
import DesignTokens.Text.Split
import DesignTokens.Yaml.Error
import DesignTokens.Yaml.Graph

/-!
# The meaning of scalars

A scalar without a tag and without quotes is read by its form: truth values in several
words, integers in base 2, 8, 10, 16 and 60, decimals with a point, dates and times, the
empty value and the merge key. Any other text is a text. A line feed at the end does not
matter for the form, but it belongs to the text that a value is then read from.
-/

namespace DesignTokens.Yaml

open Text Number

/-- The words for the truth values. -/
def truthWords : List (String × Bool) :=
  [("yes", true), ("no", false), ("true", true), ("false", false), ("on", true), ("off", false)]

/-- A word in lower case, in upper case, or with a capital. -/
def isSpelling (word : String) (s : List Char) : Bool :=
  let cs := word.toList
  let capital := match cs with
    | c :: rest => c.toUpper :: rest
    | [] => []
  s == cs || s == cs.map Char.toUpper || s == capital

/-- A text without its sign. -/
def withoutSign (s : List Char) : List Char :=
  match s with
  | '+' :: rest => rest
  | '-' :: rest => rest
  | _ => s

/-- Digits of a base and underscores, at least one. -/
def isDigitRun (base : Nat) (s : List Char) : Bool :=
  !s.isEmpty && s.all fun c => c == '_' || (digitValue? c).any fun d => d < base

/-- The parts of a text between colons, behind the first, are numbers below sixty. -/
def isSixtieth (s : List Char) : Bool :=
  match s with
  | [c] => isAsciiDigit c
  | [c, d] => '0' ≤ c && c ≤ '5' && isAsciiDigit d
  | _ => false

/-- A number that starts with a digit and may hold underscores. -/
def isPlainNumber (s : List Char) : Bool :=
  match s with
  | c :: rest => isAsciiDigit c && rest.all fun d => d == '_' || isAsciiDigit d
  | [] => false

/-- The form of an integer. -/
def isIntegerForm (s : List Char) : Bool :=
  let body := withoutSign s
  match body with
  | '0' :: 'b' :: digits => isDigitRun 2 digits
  | '0' :: 'x' :: digits => isDigitRun 16 digits
  | ['0'] => true
  | '0' :: digits => isDigitRun 8 digits
  | _ =>
      match splitAt ':' body with
      | first :: others => isPlainNumber first && others.all isSixtieth
      | [] => false

/-- Nothing, or an exponent with its sign. -/
def isExponentForm (s : List Char) : Bool :=
  match s with
  | [] => true
  | mark :: sign :: digits =>
      (mark == 'e' || mark == 'E') && (sign == '+' || sign == '-') && !digits.isEmpty &&
        digits.all isAsciiDigit
  | _ => false

/-- Places behind a point, then nothing or an exponent. -/
def isPlacesForm (s : List Char) : Bool :=
  isExponentForm (s.dropWhile fun c => c == '_' || isAsciiDigit c)

/-- The form of a decimal. -/
def isDecimalForm (s : List Char) : Bool :=
  let body := withoutSign s
  let whole := body.takeWhile fun c => c != '.'
  match body.drop whole.length with
  | '.' :: places =>
      if whole.isEmpty then
        ["inf", "Inf", "INF"].any (fun word => word.toList == places) ||
          (body == s && (["nan", "NaN", "NAN"].any (fun word => word.toList == places) ||
            (isPlainNumber (places.take 1) && isPlacesForm places)))
      else
        match splitAt ':' whole with
        | [number] => isPlainNumber number && isPlacesForm places
        | first :: others =>
            isPlainNumber first && others.all isSixtieth &&
              places.all fun c => c == '_' || isAsciiDigit c
        | [] => false
  | _ => false

/-! ## Times -/

/-- The numbers of a time, with the number of digits where it matters. -/
structure TimeParts where
  year : Nat
  month : Nat
  day : Nat
  /-- Month and day have two digits each. -/
  padded : Bool
  hour : Nat := 0
  minute : Nat := 0
  second : Nat := 0
  microsecond : Nat := 0
  offset : Option Int := none
  hasTime : Bool := false

/-- At least `least` and at most `most` digits, and what follows. -/
def takeDigits? (least most : Nat) (s : List Char) : Option (Nat × Nat × List Char) :=
  let digits := (s.take most).takeWhile isAsciiDigit
  if digits.length < least then none
  else (readNat? 10 digits).map fun n => (n, digits.length, s.drop digits.length)

/-- What follows a given character. -/
def takeChar? (c : Char) (s : List Char) : Option (List Char) :=
  match s with
  | d :: rest => if d == c then some rest else none
  | [] => none

/-- The offset at the end of a time. -/
def takeOffset? (s : List Char) : Option (Option Int) :=
  match s.dropWhile fun c => c == ' ' || c == '\t' with
  | [] => if s.isEmpty then some none else none
  | ['Z'] => some (some 0)
  | sign :: rest =>
      if sign != '+' && sign != '-' then none
      else do
        let (hours, _, rest) ← takeDigits? 1 2 rest
        let minutes ← match rest with
          | [] => some 0
          | ':' :: rest => do
              let (minutes, _, rest) ← takeDigits? 2 2 rest
              if rest.isEmpty then some minutes else none
          | _ => none
        let size : Int := (hours * 60 + minutes : Nat)
        some (some (if sign == '-' then -size else size))

/-- The fraction behind the seconds in millionths, and what follows. -/
def takeFraction (s : List Char) : Nat × List Char :=
  match s with
  | '.' :: rest =>
      let digits := rest.takeWhile isAsciiDigit
      let six := (digits ++ List.replicate 6 '0').take 6
      ((readNat? 10 six).getD 0, rest.drop digits.length)
  | _ => (0, s)

/-- The time behind a date. -/
def takeTime? (parts : TimeParts) (s : List Char) : Option TimeParts := do
  let (hour, _, s) ← takeDigits? 1 2 s
  let (minute, _, s) ← takeDigits? 2 2 (← takeChar? ':' s)
  let (second, _, s) ← takeDigits? 2 2 (← takeChar? ':' s)
  let (microsecond, s) := takeFraction s
  let offset ← takeOffset? s
  some { parts with hour, minute, second, microsecond, offset, hasTime := true }

/-- A text without the line feed at its end, unless that is all. -/
def withoutFinalFeed (s : List Char) : List Char :=
  match s.reverse with
  | '\n' :: c :: before => (c :: before).reverse
  | _ => s

/-- The parts of a date with or without a time. -/
def timeParts? (s : List Char) : Option TimeParts := do
  let (year, _, s) ← takeDigits? 4 4 s
  let (month, monthDigits, s) ← takeDigits? 1 2 (← takeChar? '-' s)
  let (day, dayDigits, s) ← takeDigits? 1 2 (← takeChar? '-' s)
  let parts : TimeParts :=
    { year, month, day, padded := monthDigits == 2 && dayDigits == 2 }
  match s with
  | [] => some parts
  | 'T' :: rest => takeTime? parts rest
  | 't' :: rest => takeTime? parts rest
  | c :: rest =>
      if c == ' ' || c == '\t' then
        takeTime? parts (rest.dropWhile fun c => c == ' ' || c == '\t')
      else none

/-- The form of a date or time: without a time, month and day need two digits. -/
def isTimeForm (s : List Char) : Bool :=
  (timeParts? s).any fun parts => parts.hasTime || parts.padded

/-! ## Tags and values -/

/-- The tag of a scalar that is read by its form. -/
def implicitTag (text : String) : Tag :=
  let s := withoutFinalFeed text.toList
  let text := String.ofList s
  if text == "" || text == "~" || isSpelling "null" s then .null
  else if truthWords.any fun entry => isSpelling entry.1 s then .bool
  else if isDecimalForm s then .float
  else if isIntegerForm s then .int
  else if isTimeForm s then .time
  else if text == "<<" then .merge
  else if text == "=" then .value
  else if ["!", "&", "*"].contains text then .unknown
  else .text

/-- The integer of a base that a text is read as. -/
def integerOf (base : Nat) (s : List Char) : Read Int :=
  match readInteger base s with
  | .ok n => .ok n
  | .error fault => .error (.notInteger (String.ofList s) base fault)

/-- A text without underscores, its sign taken off. -/
def signAndSize (s : List Char) : Read (Bool × List Char) :=
  match s.filter fun c => c != '_' with
  | [] => .error .emptyNumber
  | '-' :: rest => .ok (true, rest)
  | '+' :: rest => .ok (false, rest)
  | rest => .ok (false, rest)

/-- The integer that a scalar stands for. -/
def intValue (s : List Char) : Read Int := do
  let (negative, body) ← signAndSize s
  let size ← match body with
    | [] => .error .emptyNumber
    | ['0'] => .ok 0
    | '0' :: 'b' :: rest => integerOf 2 rest
    | '0' :: 'x' :: rest => integerOf 16 rest
    | '0' :: _ => integerOf 8 body
    | _ =>
        if body.contains ':' then do
          let digits ← (splitAt ':' body).mapM (integerOf 10)
          .ok (digits.foldl (fun acc digit => acc * 60 + digit) 0)
        else integerOf 10 body
  return if negative then -size else size

/-- The decimal that a text is read as. -/
def decimalOf (s : List Char) : Read Float :=
  match readFloat? s with
  | some x => .ok x
  | none => .error (.notDecimal (String.ofList s))

/-- The value of digits in base sixty, the last one first. Each digit has the weight of its
place, which is rounded to a float. -/
def sixtieths (acc : Float) (weight : Nat) : List Float → Read Float
  | [] => .ok acc
  | digit :: rest =>
      let factor := nearestFloat weight 0
      if factor.isInf then .error .weightTooLarge
      else sixtieths (acc + digit * factor) (weight * 60) rest

/-- The float that a scalar stands for. -/
def floatValue (s : List Char) : Read Scalar := do
  let (negative, body) ← signAndSize (lowerChars s)
  if body == ".nan".toList then return .noNumber
  else
    let size ←
      if body == ".inf".toList then .ok (1.0 / 0.0)
      else if body.contains ':' then do
        let digits ← (splitAt ':' body).mapM decimalOf
        sixtieths 0 1 digits.reverse
      else decimalOf body
    return .float (if negative then -size else size)

/-- The truth value that a scalar stands for. -/
def truthValue (s : List Char) : Read Bool :=
  let word := String.ofList (lowerChars s)
  match truthWords.lookup word with
  | some value => .ok value
  | none => .error (.notTruth word)

/-- The date or time that a scalar stands for. -/
def timeValue (s : List Char) : Read Scalar :=
  match timeParts? (withoutFinalFeed s) with
  | none => .error .notTime
  | some parts =>
      let date := Date.ofParts parts.year parts.month parts.day
      if parts.hasTime then
        match Moment.ofParts date parts.hour parts.minute parts.second parts.microsecond
            parts.offset with
        | .ok moment => .ok (.moment moment)
        | .error error => .error (.calendar error)
      else match date with
        | .ok date => .ok (.date date)
        | .error error => .error (.calendar error)

/-- The value of a digit in base 64. -/
def base64Value? (c : Char) : Option Nat :=
  if isAsciiUpper c then some (c.toNat - 0x41)
  else if isAsciiLower c then some (c.toNat - 0x61 + 26)
  else if isAsciiDigit c then some (c.toNat - 0x30 + 52)
  else if c == '+' then some 62
  else if c == '/' then some 63
  else none

/-- Reads digits of base 64 in groups of four: the digits and pads of the open group, and
their value. Other characters are passed over. -/
def base64From (digits pads value : Nat) : List Char → Option (List UInt8)
  | [] => if digits == 0 then some [] else none
  | c :: rest =>
      if c == '=' then
        if 2 ≤ digits && 4 ≤ digits + pads + 1 then some []
        else base64From digits (if 2 ≤ digits then pads + 1 else pads) value rest
      else match base64Value? c with
        | none => base64From digits pads value rest
        | some d =>
            let value := value * 64 + d
            match digits with
            | 0 => base64From 1 0 d rest
            | 1 => (base64From 2 0 (value % 16) rest).map (UInt8.ofNat (value / 16) :: ·)
            | 2 => (base64From 3 0 (value % 4) rest).map (UInt8.ofNat (value / 4) :: ·)
            | _ => (base64From 0 0 0 rest).map (UInt8.ofNat value :: ·)

/-- The bytes that a scalar stands for. -/
def binaryValue (s : List Char) : Read Scalar :=
  if s.any fun c => 0x80 ≤ c.toNat then malformed
  else match base64From 0 0 0 s with
    | some bytes => .ok (.bytes bytes)
    | none => malformed

/-- The value of a scalar with a tag. -/
def scalarValue (tag : Tag) (text : String) : Read Scalar :=
  let s := text.toList
  match tag with
  | .null => .ok .null
  | .bool => (truthValue s).map .bool
  | .int => (intValue s).map .int
  | .float => floatValue s
  | .text => .ok (.text text)
  | .binary => binaryValue s
  | .time => timeValue s
  | _ => malformed

end DesignTokens.Yaml
