import DesignTokens.Entries
import DesignTokens.Text.Letter

/-!
# Arguments of a command

A command takes options, each with or without a value, and at most one operand; or it takes
the name of a further command with all arguments behind it. An option may be shortened as
long as no other one starts alike, and its value stands behind an equals sign or in the next
argument. Behind two hyphens every argument is an operand, but no command is named there; as
the value of an option, behind an equals sign, two hyphens stand for no value. An option that
several rules allow is refused before anything is read. Any other wrong option stops the
reading at its place, and so does the wish for help; an argument too many is refused at the
end.
-/

namespace DesignTokens

/-- An option of a command. -/
structure OptionRule where
  /-- The name with its hyphens. -/
  name : String
  /-- The values that the option takes, if it takes one. -/
  accepts : Option (String → Bool) := none

namespace OptionRule

/-- An option without a value. -/
def flag (name : String) : OptionRule := { name }

/-- An option that takes any text. -/
def free (name : String) : OptionRule := { name, accepts := some fun _ => true }

/-- An option that takes certain texts. -/
def limited (name : String) (accepts : String → Bool) : OptionRule :=
  { name, accepts := some accepts }

end OptionRule

/-- What a command takes besides options. -/
inductive OperandShape where
  | nothing
  | single
  /-- The name of a command and the arguments of that command. -/
  | command
deriving Repr, DecidableEq

/-- Why the reading of arguments ends early. -/
inductive ArgumentStop where
  | help
  | refused
deriving Repr, DecidableEq

/-- The exit code of a command whose arguments were not read to their end. -/
def ArgumentStop.code : ArgumentStop → Nat
  | help => 0
  | refused => 2

/-- What an argument is. -/
inductive ArgumentForm where
  | operand
  | option (rule : OptionRule) (value : Option String)
  | help
  /-- An option that no rule allows. -/
  | unknown
  /-- An option that several rules allow. -/
  | ambiguous
  /-- Help with a value. -/
  | wrong

/-- The name of the option that asks for help. -/
def helpName : String := "--help"

/-- A hyphen and a number: digits, with a point before the last of them or not. A line feed
may stand at the end. -/
def isNegativeNumber (argument : List Char) : Bool :=
  let isNumber (s : List Char) : Bool := !s.isEmpty && s.all Text.isDecimalDigit
  let body := match argument.reverse with
    | '\n' :: before => before.reverse
    | _ => argument
  match body with
  | '-' :: digits =>
      let whole := digits.takeWhile Text.isDecimalDigit
      match digits.drop whole.length with
      | [] => isNumber whole
      | '.' :: places => isNumber places
      | _ => false
  | _ => false

/-- What stands before the first equals sign, and behind it if there is one. -/
def cutAtEquals (argument : List Char) : List Char × Option String :=
  let name := argument.takeWhile fun c => c != '='
  match argument.drop name.length with
  | _ :: value => (name, some (String.ofList value))
  | [] => (name, none)

/-- What an argument with a hyphen in front is, when it names no option in full. -/
def shortenedForm (rules : List OptionRule) (argument : List Char) : ArgumentForm :=
  let (name, value) := cutAtEquals argument
  let fits (full : String) : Bool := ['-', '-'].isPrefixOf name && name.isPrefixOf full.toList
  let matching := rules.filter fun rule => fits rule.name
  match matching, fits helpName with
  | [rule], false => .option rule value
  | [], true => if value.isNone then .help else .wrong
  | [], false =>
      if isNegativeNumber argument || argument.contains ' ' then .operand else .unknown
  | _, _ => .ambiguous

/-- What is meant by the letters behind a short wish for help, or behind an equals sign there:
they must be more wishes for help. -/
def helpForm (tail : List Char) : ArgumentForm :=
  if !tail.isEmpty && tail.all fun c => c == 'h' then .help else .wrong

/-- What an argument is. -/
def argumentForm (rules : List OptionRule) (argument : String) : ArgumentForm :=
  let named (name : String) := rules.find? fun rule => rule.name == name
  match argument.toList with
  | ['-', 'h'] => .help
  | '-' :: 'h' :: '=' :: tail => helpForm tail
  | '-' :: 'h' :: tail => helpForm tail
  | '-' :: c :: rest =>
      let (name, value) := cutAtEquals ('-' :: c :: rest)
      match named argument, named (String.ofList name) with
      | some rule, _ => .option rule none
      | none, some rule => .option rule value
      | none, none =>
          if argument == helpName then .help
          else if String.ofList name == helpName then .wrong
          else shortenedForm rules ('-' :: c :: rest)
  | _ => .operand

/-- What has been read of the arguments. -/
structure ArgumentReading where
  /-- The options that were given, with their last values where they have one. -/
  options : Entries (Option String) := []
  operand : Option String := none
  /-- The arguments of the command that the operand names. -/
  behind : List String := []
  /-- An argument was too many. -/
  excess : Bool := false

/-- Two hyphens, behind which there are operands only. -/
def operandMark : String := "--"

/-- The argument can be the value of an option before it. -/
def isValueFor (rules : List OptionRule) (argument : String) : Bool :=
  argument != operandMark && match argumentForm rules argument with
    | .operand => true
    | _ => false

namespace ArgumentReading

/-- Notes an option. -/
def give (reading : ArgumentReading) (rule : OptionRule) (value : Option String) :
    ArgumentReading :=
  { reading with options := reading.options.put rule.name value }

/-- Notes that an argument is too many. -/
def tooMany (reading : ArgumentReading) : ArgumentReading := { reading with excess := true }

/-- Ends a reading behind the mark for operands; `close` tells that an operand stands right
before the mark. -/
def finish (shape : OperandShape) (reading : ArgumentReading) (close : Bool)
    (rest : List String) : ArgumentReading :=
  match reading.operand, shape, rest with
  | none, .single, [only] => { reading with operand := some only }
  | none, .single, first :: _ => { reading with operand := some first, excess := true }
  | some _, .single, [] => if close then reading else reading.tooMany
  | _, _, _ => reading.tooMany

/-- Reads arguments; `close` tells that the last one was taken as the operand. -/
def go (rules : List OptionRule) (shape : OperandShape) (reading : ArgumentReading)
    (close : Bool) : List String → Except ArgumentStop ArgumentReading
  | [] => .ok reading
  | argument :: rest =>
      if argument = operandMark then .ok (finish shape reading close rest)
      else match argumentForm rules argument with
        | .operand =>
            match shape, reading.operand with
            | .command, _ => .ok { reading with operand := some argument, behind := rest }
            | .single, none => go rules shape { reading with operand := some argument } true rest
            | _, _ => go rules shape reading.tooMany false rest
        | .unknown => go rules shape reading.tooMany false rest
        | .help => .error .help
        | .ambiguous => .error .refused
        | .wrong => .error .refused
        | .option rule value =>
            match rule.accepts, value with
            | none, none => go rules shape (reading.give rule none) false rest
            | none, some _ => .error .refused
            | some accepts, some value =>
                if value = operandMark then go rules shape (reading.give rule none) false rest
                else if accepts value then go rules shape (reading.give rule value) false rest
                else .error .refused
            | some accepts, none =>
                match rest with
                | [] => .error .refused
                | next :: others =>
                    if isValueFor rules next && accepts next then
                      go rules shape (reading.give rule next) false others
                    else .error .refused

end ArgumentReading

/-- An option before the mark for operands that several rules allow. -/
def hasAmbiguity (rules : List OptionRule) (arguments : List String) : Bool :=
  (arguments.takeWhile fun argument => argument != operandMark).any fun argument =>
    match argumentForm rules argument with
    | .ambiguous => true
    | _ => false

/-- Reads the arguments of a command. -/
def readArguments (rules : List OptionRule) (shape : OperandShape) (arguments : List String) :
    Except ArgumentStop ArgumentReading :=
  if hasAmbiguity rules arguments then .error .refused
  else ArgumentReading.go rules shape {} false arguments

end DesignTokens
