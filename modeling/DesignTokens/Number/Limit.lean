/-!
# The length of integers

An integer of more than `maxDigits` decimal digits is neither read from a decimal text nor
written as one.
-/

namespace DesignTokens.Number

/-- The largest number of decimal digits that an integer is read from or written with. -/
def maxDigits : Nat := 4300

/-- An integer that can be written in decimal. -/
def isWritable (n : Int) : Bool := n.natAbs < Nat.pow 10 maxDigits

/-- The wording of the limit, with what is said of the value. -/
def digitLimitMessage (detail : String) : String :=
  s!"Exceeds the limit ({maxDigits} digits) for integer string conversion{detail}; " ++
    "use sys.set_int_max_str_digits() to increase the limit"

end DesignTokens.Number
