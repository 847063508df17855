import DesignTokens.Calendar
import DesignTokens.Number.Limit
import DesignTokens.Number.Text
import DesignTokens.Text.Quoted

/-!
# Scalars of a token source

A token source is nested data whose smallest parts are scalars. Texts and numbers can be
the text of a token (`tokenText?`); every scalar can be a name (`nameText`), unless it is an
integer that is too long to be written (`isWritable`). Two scalars are one key of a mapping
when they are equal. Numbers, `true` and `false` are compared by value, so `1`, `1.0` and
`true` are the same key, and moments by the instant. A float that is no number is the same
key as no other scalar, unless it was given by the word for it.
-/

namespace DesignTokens

/-- A part of a token source that has no parts. -/
inductive Scalar where
  | null
  | bool (value : Bool)
  | int (value : Int)
  | float (value : Float)
  /-- What the word for no number stands for. -/
  | noNumber
  | text (value : String)
  | bytes (data : List UInt8)
  | date (value : Date)
  | moment (value : Moment)
deriving Repr, Inhabited

namespace Scalar

/-- The word for the kind of a scalar in messages. -/
def kind : Scalar → String
  | null => "NoneType"
  | bool _ => "bool"
  | int _ => "int"
  | float _ => "float"
  | noNumber => "float"
  | text _ => "str"
  | bytes _ => "bytes"
  | date _ => "date"
  | moment _ => "datetime"

/-- The scalar can be written as text. -/
def isWritable : Scalar → Bool
  | int value => Number.isWritable value
  | _ => true

/-- The text that a scalar stands for as a token: only texts and numbers have one. -/
def tokenText? : Scalar → Option String
  | int value => some (Number.intText value)
  | float value => some (Number.floatText value)
  | noNumber => some Number.noNumberText
  | text value => some value
  | _ => none

/-- One byte between quotes. -/
def byteChars (quote : Char) (byte : UInt8) : List Char :=
  if byte < 0x80 then Text.escapeChar quote (Char.ofNat byte.toNat)
  else Text.escapeCodePoint byte.toNat

/-- The text of a scalar that is used as a name. -/
def nameText : Scalar → String
  | null => "None"
  | bool true => "True"
  | bool false => "False"
  | int value => Number.intText value
  | float value => Number.floatText value
  | noNumber => Number.noNumberText
  | text value => value
  | bytes data =>
      let quote := Text.quoteFor (data.map fun byte => Char.ofNat byte.toNat)
      String.ofList ('b' :: quote :: (data.flatMap (byteChars quote) ++ [quote]))
  | date value => value.iso
  | moment value => value.isoWith " "

/-- The value of a whole float. -/
def wholeValue? (x : Float) : Option Int :=
  if x.isNaN || x.isInf then none
  else if x == 0 then some 0
  else
    let v := (Number.Binary.ofFloat x).value
    if v.num % v.den == 0 then
      let n : Int := (v.num / v.den : Nat)
      some (if Number.signed x then -n else n)
    else none

/-- The number that a scalar counts as, when it is a whole one. -/
def wholeNumber? : Scalar → Option Int
  | bool value => some (if value then 1 else 0)
  | int value => some value
  | float value => wholeValue? value
  | _ => none

/-- Two scalars are the same key. -/
def sameKey (a b : Scalar) : Bool :=
  match a.wholeNumber?, b.wholeNumber? with
  | some m, some n => m == n
  | none, none =>
      match a, b with
      | null, null => true
      | float x, float y => x == y
      | noNumber, noNumber => true
      | text s, text t => s == t
      | bytes s, bytes t => s == t
      | date s, date t => s == t
      | moment s, moment t => s.isSameInstant t
      | _, _ => false
  | _, _ => false

end Scalar

end DesignTokens
