import DesignTokens.Source.Scalar
import DesignTokens.Token.Node

/-!
# Nested data of a token source

A datum is a scalar, a list, a set, a mapping, or a subtree that has been classified
before. A mapping that holds itself has no end; in its own inside it stands as `endless`.
`stringify` writes every name and every number of a datum as text, where `unwritable?` has
no objection; where two names become the same text, the first place and the last value are
kept.
-/

namespace DesignTokens

/-- A part of a token source. -/
inductive Datum where
  | scalar (value : Scalar)
  | list (items : List Datum)
  | set (members : List Scalar)
  | map (entries : List (Scalar × Datum))
  /-- A subtree that needs no classification. -/
  | node (tree : Node)
  /-- A mapping around this place. -/
  | endless
deriving Repr, Inhabited

/-- Why a datum cannot be written as text. -/
inductive Unwritable where
  /-- An integer has too many digits. -/
  | tooLong
  /-- A mapping holds itself. -/
  | endless
deriving Repr, DecidableEq

/-- The wording of a reason. -/
def Unwritable.message : Unwritable → String
  | tooLong => Number.digitLimitMessage ""
  | endless => "maximum recursion depth exceeded in comparison"

namespace Datum

/-- What holds of a mapping when it holds of its values, and of all other data, holds of every
datum. -/
@[elab_as_elim]
theorem induction {motive : Datum → Prop} (scalar : ∀ value, motive (.scalar value))
    (list : ∀ items, motive (.list items)) (set : ∀ members, motive (.set members))
    (map : ∀ entries, (∀ entry ∈ entries, motive entry.2) → motive (.map entries))
    (node : ∀ tree, motive (.node tree)) (endless : motive .endless) :
    ∀ datum, motive datum
  | .scalar value => scalar value
  | .list items => list items
  | .set members => set members
  | .map entries =>
      map entries fun entry _ => induction scalar list set map node endless entry.2
  | .node tree => node tree
  | .endless => endless
termination_by datum => sizeOf datum
decreasing_by
  have hentry := List.sizeOf_lt_of_mem ‹_ ∈ entries›
  have hvalue : sizeOf entry.2 < sizeOf entry := by
    obtain ⟨key, value⟩ := entry
    simp only [Prod.mk.sizeOf_spec]
    omega
  simp only [Datum.map.sizeOf_spec]
  omega

/-- A datum that is a text. -/
def text (value : String) : Datum := scalar (.text value)

/-- A mapping from texts. -/
def ofEntries (entries : Entries Datum) : Datum :=
  map (entries.map fun entry => (.text entry.1, entry.2))

/-- What a text stands for in the entries of a mapping. -/
def lookup (name : String) : List (Scalar × Datum) → Option Datum
  | [] => none
  | (.text key, value) :: rest => if key = name then some value else lookup name rest
  | _ :: rest => lookup name rest

/-- Writes a key: in its place if it is there, else at the end. -/
def putKey {α : Type} (key : Scalar) (value : α) : List (Scalar × α) → List (Scalar × α)
  | [] => [(key, value)]
  | (old, was) :: rest =>
      if old.sameKey key then (old, value) :: rest else (old, was) :: putKey key value rest

/-- The mapping that results from writing the pairs one after the other. -/
def ofPairs (pairs : List (Scalar × Datum)) : Datum :=
  map (pairs.foldl (fun entries pair => putKey pair.1 pair.2 entries) [])

/-- The word for the kind of a datum in messages. -/
def kind : Datum → String
  | scalar value => value.kind
  | list _ => "list"
  | set _ => "set"
  | map _ => "dict"
  | node _ => "node"
  | endless => "dict"

/-- The text that a datum stands for as a token. -/
def tokenText? : Datum → Option String
  | scalar value => value.tokenText?
  | _ => none

/-- A scalar that cannot be written as text. -/
def unwritableScalar? (value : Scalar) : Option Unwritable :=
  if value.isWritable then none else some .tooLong

mutual

/-- The first reason why the names and numbers of a datum cannot be written as text. -/
def unwritable? : Datum → Option Unwritable
  | scalar value => unwritableScalar? value
  | map entries => unwritableIn? entries
  | endless => some .endless
  | list _ => none
  | set _ => none
  | node _ => none

/-- The first reason in the entries of a mapping, in each entry the name going first. -/
def unwritableIn? : List (Scalar × Datum) → Option Unwritable
  | [] => none
  | (key, value) :: rest =>
      match unwritableScalar? key, unwritable? value with
      | some reason, _ => some reason
      | none, some reason => some reason
      | none, none => unwritableIn? rest

end

mutual

/-- Every name and every number as text. -/
def stringify : Datum → Datum
  | scalar (.int value) => text (Number.intText value)
  | scalar (.float value) => text (Number.floatText value)
  | scalar .noNumber => text Number.noNumberText
  | map entries => ofEntries (Entries.ofList (stringifyEntries entries))
  | datum => datum

/-- The entries of a mapping with their names as text. -/
def stringifyEntries : List (Scalar × Datum) → List (String × Datum)
  | [] => []
  | (key, value) :: rest => (key.nameText, stringify value) :: stringifyEntries rest

end

end Datum

end DesignTokens
