/-!
# Reading UTF-8

Bytes are decoded to characters. A malformed sequence is reported with the bytes that it
takes up and the reason: a byte that starts nothing, a byte that should go on and does
not, or an end in the middle. Overlong forms, surrogates and values beyond the last code
point are refused at the first byte that shows them.
-/

namespace DesignTokens.Text

/-- Why a byte sequence is malformed. -/
inductive Utf8Fault where
  | invalidStart
  | invalidContinuation
  | unexpectedEnd
deriving Repr, DecidableEq

/-- The wording of a fault. -/
def Utf8Fault.reason : Utf8Fault → String
  | invalidStart => "invalid start byte"
  | invalidContinuation => "invalid continuation byte"
  | unexpectedEnd => "unexpected end of data"

/-- A malformed sequence: where it starts, its bytes, and what is wrong. -/
structure Utf8Error where
  position : Nat
  bytes : List UInt8
  fault : Utf8Fault
  /-- The number of characters in the portions before. -/
  before : Nat
deriving Repr, DecidableEq

/-- A byte in two hexadecimal digits. -/
def hexByte (byte : UInt8) : String :=
  let digit (n : Nat) : Char := if n < 10 then Char.ofNat (48 + n) else Char.ofNat (87 + n)
  String.ofList [digit (byte.toNat / 16), digit (byte.toNat % 16)]

/-- The wording of an error. -/
def Utf8Error.message (e : Utf8Error) : String :=
  match e.bytes with
  | [byte] =>
      s!"'utf-8' codec can't decode byte 0x{hexByte byte} in position {e.position}: " ++
        e.fault.reason
  | bytes =>
      s!"'utf-8' codec can't decode bytes in position {e.position}-" ++
        s!"{e.position + bytes.length - 1}: {e.fault.reason}"

/-- What the first byte of a sequence says: its payload, and the ranges of the bytes that
must follow. -/
def sequenceStart? (byte : UInt8) : Option (Nat × List (Nat × Nat)) :=
  let n := byte.toNat
  let any := (0x80, 0xbf)
  if n < 0x80 then some (n, [])
  else if n < 0xc2 then none
  else if n < 0xe0 then some (n - 0xc0, [any])
  else if n == 0xe0 then some (0, [(0xa0, 0xbf), any])
  else if n == 0xed then some (0xd, [(0x80, 0x9f), any])
  else if n < 0xf0 then some (n - 0xe0, [any, any])
  else if n == 0xf0 then some (0, [(0x90, 0xbf), any, any])
  else if n < 0xf4 then some (n - 0xf0, [any, any, any])
  else if n == 0xf4 then some (4, [(0x80, 0x8f), any, any])
  else none

/-- What is known of the sequence that is being read. -/
structure Utf8State where
  /-- The payload so far. -/
  value : Nat := 0
  /-- The ranges of the bytes that must follow; none between two sequences. -/
  expected : List (Nat × Nat) := []
  /-- The bytes of the sequence so far, the last one first. -/
  taken : List UInt8 := []

/-- The number of bytes that are decoded at a time. -/
def portionSize : Nat := 0x2000

/-- The bytes start a surrogate, which is refused when its last byte is asked for. -/
def startsSurrogate (first second : UInt8) : Bool :=
  first == 0xed && 0xa0 ≤ second && second ≤ 0xbf

/-- What bytes are read as: a text, and what is wrong behind it unless they end there. -/
structure Decoded where
  text : List Char
  error : Option Utf8Error := none

/-- A text that starts with a character. -/
def Decoded.cons (c : Char) (decoded : Decoded) : Decoded :=
  { decoded with text := c :: decoded.text }

/-- The portion that is being decoded. -/
structure Portion where
  /-- Where it starts: at the sequence that the portion before left open, if there is one. -/
  base : Nat := 0
  /-- The number of characters before it. -/
  before : Nat := 0

/-- Reads the bytes from `position` on, `count` characters having been read. Positions are
reported from the start of the portion that is being decoded. A sequence that a portion left
open belongs to the next one, and at the end to a portion of its own. -/
def decodeFrom (portion : Portion) (count position : Nat) (state : Utf8State) :
    List UInt8 → Decoded
  | [] =>
      if state.taken.isEmpty then { text := [] }
      else { text := [], error := some ⟨0, state.taken.reverse, .unexpectedEnd, count⟩ }
  | byte :: rest =>
      let start := position - state.taken.length
      let portion := if position % portionSize == 0 then ⟨start, count⟩ else portion
      match state.expected with
      | [] =>
          match sequenceStart? byte with
          | none =>
              let place := position - portion.base
              { text := [], error := some ⟨place, [byte], .invalidStart, portion.before⟩ }
          | some (value, []) =>
              (decodeFrom portion (count + 1) (position + 1) {} rest).cons (Char.ofNat value)
          | some (value, expected) =>
              decodeFrom portion count (position + 1) ⟨value, expected, [byte]⟩ rest
      | (low, high) :: expected =>
          let n := byte.toNat
          if low ≤ n && n ≤ high then
            let value := state.value * 64 + (n - 0x80)
            if expected.isEmpty then
              (decodeFrom portion (count + 1) (position + 1) {} rest).cons (Char.ofNat value)
            else
              decodeFrom portion count (position + 1) ⟨value, expected, byte :: state.taken⟩ rest
          else
            let isOpen := state.taken.any (startsSurrogate · byte) &&
              (rest.isEmpty || (position + 1) % portionSize == 0)
            let portion := if isOpen then ⟨start, count⟩ else portion
            let place := start - portion.base
            let taken := state.taken.reverse
            { text := [], error := some ⟨place, taken, .invalidContinuation, portion.before⟩ }

/-- What bytes are read as. -/
def decode (bytes : List UInt8) : Decoded := decodeFrom {} 0 0 {} bytes

/-- The text of the bytes. -/
def decodeUtf8 (bytes : List UInt8) : Except Utf8Error String :=
  let decoded := decode bytes
  match decoded.error with
  | some error => .error error
  | none => .ok (String.ofList decoded.text)

/-- Every line break as one line feed. -/
def normalizeBreaks : List Char → List Char
  | [] => []
  | '\r' :: '\n' :: rest => '\n' :: normalizeBreaks rest
  | '\r' :: rest => '\n' :: normalizeBreaks rest
  | c :: rest => c :: normalizeBreaks rest

end DesignTokens.Text
