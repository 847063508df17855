import DesignTokens.Source.Datum
import DesignTokens.Text.Utf8

/-!
# Checked reading of records

The fields of a record are read from a mapping independently of each other, and every fault
is kept: `Checked` is a value or a list of issues, and `Checked.and` joins two of them
without losing an issue of either. An issue says where it lies and what is wrong there. The
type `R` is that of the reasons that a kind of record has of its own.
-/

namespace DesignTokens

/-- What is wrong with a part of a record. -/
inductive Fault (R : Type) where
  | missing
  | notText
  | notUnicode
  | notMapping
  /-- The record itself is no mapping. -/
  | notRecord (name : String)
  /-- The format tag is not the one that is read. -/
  | otherFormat (expected : String)
  /-- A name or a number in it cannot be written as text. -/
  | unwritable (reason : Unwritable)
  /-- A rule of the record is broken. -/
  | rejected (reason : R)
deriving Repr, DecidableEq

/-- A fault and where it lies. -/
structure Issue (R : Type) where
  location : List String
  fault : Fault R
deriving Repr, DecidableEq

variable {R : Type} {α β : Type}

/-- The wording of a fault, given the wording of the reasons. -/
def Fault.message (reasonText : R → String) : Fault R → String
  | missing => "Field required"
  | notText => "Input should be a valid string"
  | notUnicode => "Input should be a valid string, unable to parse raw data as a unicode string"
  | notMapping => "Input should be a valid dictionary"
  | notRecord name => s!"Input should be a valid dictionary or instance of {name}"
  | otherFormat expected => s!"Input should be '{expected}'"
  | unwritable reason => s!"Value error, {reason.message}"
  | rejected reason => s!"Value error, {reasonText reason}"

/-- The kind of a fault in one word. -/
def Fault.kind : Fault R → String
  | missing => "missing"
  | notText => "string_type"
  | notUnicode => "string_unicode"
  | notMapping => "dict_type"
  | notRecord _ => "model_type"
  | otherFormat _ => "literal_error"
  | unwritable _ => "value_error"
  | rejected _ => "value_error"

/-- One line for an issue. -/
def Issue.line (reasonText : R → String) (issue : Issue R) : String :=
  ".".intercalate issue.location ++ ": " ++ issue.fault.message reasonText ++
    s!" [{issue.fault.kind}]"

/-- One line for each issue. -/
def issueLines (reasonText : R → String) (issues : List (Issue R)) : String :=
  "\n".intercalate (issues.map (Issue.line reasonText))

/-- The part at fault has no end. -/
def Issue.isEndless (issue : Issue R) : Bool :=
  match issue.fault with
  | .unwritable .endless => true
  | _ => false

/-- How many issues a record of the given name has. -/
def issueCount (record : String) (issues : List (Issue R)) : String :=
  let noun := if issues.length == 1 then "error" else "errors"
  s!"{issues.length} validation {noun} for {record}"

/-- A value, or every issue that keeps it from being one. -/
abbrev Checked (R α : Type) := Except (List (Issue R)) α

namespace Checked

/-- One issue. -/
def fail (location : List String) (fault : Fault R) : Checked R α := .error [⟨location, fault⟩]

/-- A value without an issue. -/
def done (value : α) : Checked R α := .ok value

/-- Applies a checked function to a checked value and keeps the issues of both. -/
def and (f : Checked R (α → β)) (x : Checked R α) : Checked R β :=
  match f, x with
  | .ok f, .ok x => .ok (f x)
  | .error issues, .ok _ => .error issues
  | .ok _, .error issues => .error issues
  | .error issues, .error more => .error (issues ++ more)

/-- Checks the values of a mapping and keeps all issues. -/
def entries (check : String → Datum → Checked R α) : Entries Datum → Checked R (Entries α)
  | [] => .ok []
  | (name, value) :: rest =>
      and (and (done fun v others => (name, v) :: others) (check name value))
        (entries check rest)

/-- `and` succeeds exactly when both parts do. -/
theorem and_eq_ok_iff {f : Checked R (α → β)} {x : Checked R α} {y : β} :
    and f x = .ok y ↔ ∃ g v, f = .ok g ∧ x = .ok v ∧ g v = y := by
  cases f <;> cases x <;> simp [and]

end Checked

/-! ## Fields -/

/-- What a mapping holds for a field that has two names, with the name that was used; the
first name wins. -/
def fieldOf (entries : List (Scalar × Datum)) (name other : String) : Option (String × Datum) :=
  match Datum.lookup name entries with
  | some value => some (name, value)
  | none => (Datum.lookup other entries).map (other, ·)

/-- A text. Bytes that are UTF-8 count as one, and lone surrogates may be in it. -/
def readText (location : List String) : Datum → Checked R String
  | .scalar (.text value) => .ok value
  | .scalar (.bytes data) =>
      match Text.decodeUtf8 data with
      | .ok value => .ok value
      | .error _ => .fail location .notUnicode
  | _ => .fail location .notText

/-- A text field with a value to fall back on. -/
def textField (entries : List (Scalar × Datum)) (name default : String) : Checked R String :=
  match Datum.lookup name entries with
  | some value => readText [name] value
  | none => .ok default

/-- A text field that must be there. -/
def requiredText (entries : List (Scalar × Datum)) (name : String) : Checked R String :=
  match Datum.lookup name entries with
  | some value => readText [name] value
  | none => .fail [name] .missing

/-- The format tag, which has one value only. -/
def formatField (entries : List (Scalar × Datum)) (expected : String) : Checked R Unit :=
  match fieldOf entries "schema" "schema_version" with
  | none => .ok ()
  | some (used, value) =>
      match value with
      | .scalar (.text tag) =>
          if tag == expected then .ok ()
          else if tag.toList.any fun c => (Text.surrogate? c).isSome then .fail [used] .notUnicode
          else .fail [used] (.otherFormat expected)
      | _ => .fail [used] (.otherFormat expected)

/-- A mapping from texts to texts. -/
def readTexts (location : List String) : Datum → Checked R (Entries String)
  | .map entries =>
      Checked.entries (fun name part => readText (location ++ [name]) part)
        (entries.map fun entry => (entry.1.nameText, entry.2))
  | _ => .fail location .notMapping

/-- A mapping of mappings from texts to texts. -/
def readPalette (location : List String) : Datum → Checked R (Entries (Entries String))
  | .map entries =>
      Checked.entries (fun name part => readTexts (location ++ [name]) part)
        (entries.map fun entry => (entry.1.nameText, entry.2))
  | _ => .fail location .notMapping

/-- Reads a field that may be left out or empty, which both give nothing. Names and numbers
are written as text before the field is checked. -/
def optionalField (read : List String → Datum → Checked R (Entries α))
    (entries : List (Scalar × Datum)) (name other : String) : Checked R (Entries α) :=
  match fieldOf entries name other with
  | none => .ok []
  | some (_, .scalar .null) => .ok []
  | some (used, value) =>
      match value.unwritable? with
      | some reason => .fail [used] (.unwritable reason)
      | none => read [used] value.stringify

end DesignTokens
