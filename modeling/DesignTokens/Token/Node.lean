import DesignTokens.Entries
import DesignTokens.Theme

/-!
# The semantic tree

A leaf holds one text for each theme, or one text for all of them; a group holds named
nodes. A group may have children that are called like the themes, so the kind of a node is
a constructor and never read off its names. Every leaf of a tree lies at the path of names
that leads to it: `leaves` lists them depth first, `find?` walks one path.
-/

namespace DesignTokens

/-- A token with its text. -/
inductive Leaf where
  /-- A text for each theme that the token is defined for. -/
  | variant (light dark : Option String)
  /-- One text for every theme. -/
  | plain (text : String)
deriving Repr, DecidableEq, Inhabited

/-- The text of a token in a theme. -/
def Leaf.textFor : Leaf → Theme → Option String
  | variant light _, .light => light
  | variant _ dark, .dark => dark
  | plain text, _ => some text

/-- The token has a text of its own for each theme. -/
def Leaf.isVariant : Leaf → Bool
  | variant _ _ => true
  | plain _ => false

/-- A token or a named grouping of more nodes. -/
inductive Node where
  | leaf (value : Leaf)
  | group (children : List (String × Node))
deriving Repr, Inhabited

namespace Node

mutual

/-- Equality of two trees can be decided. -/
def decideEq : (a b : Node) → Decidable (a = b)
  | leaf a, leaf b =>
      if h : a = b then isTrue (by rw [h]) else isFalse (by intro e; cases e; exact h rfl)
  | group a, group b =>
      match decideChildren a b with
      | isTrue h => isTrue (by rw [h])
      | isFalse h => isFalse (by intro e; cases e; exact h rfl)
  | leaf _, group _ => isFalse (by intro e; cases e)
  | group _, leaf _ => isFalse (by intro e; cases e)

/-- Equality of the children of two groups can be decided. -/
def decideChildren : (a b : List (String × Node)) → Decidable (a = b)
  | [], [] => isTrue rfl
  | [], _ :: _ => isFalse (by intro e; cases e)
  | _ :: _, [] => isFalse (by intro e; cases e)
  | (m, x) :: a, (n, y) :: b =>
      if hn : m = n then
        match decideEq x y with
        | isTrue hx =>
            match decideChildren a b with
            | isTrue h => isTrue (by rw [hn, hx, h])
            | isFalse h => isFalse (by intro e; cases e; exact h rfl)
        | isFalse hx => isFalse (by intro e; cases e; exact hx rfl)
      else isFalse (by intro e; cases e; exact hn rfl)

end

instance : DecidableEq Node := decideEq

/-- The node at the end of a path. -/
def find? : Node → List String → Option Node
  | node, [] => some node
  | group children, name :: rest =>
      match Entries.get? children name with
      | some child => child.find? rest
      | none => none
  | leaf _, _ :: _ => none

mutual

/-- Every leaf at or below a node that lies at `path`, depth first. -/
def leavesFrom (path : List String) : Node → List (List String × Leaf)
  | leaf value => [(path, value)]
  | group children => leavesOf path children

/-- Every leaf below the children of a group that lies at `path`, depth first. -/
def leavesOf (path : List String) : List (String × Node) → List (List String × Leaf)
  | [] => []
  | (name, node) :: rest => leavesFrom (path ++ [name]) node ++ leavesOf path rest

end

mutual

/-- No group of the tree has two children of one name. -/
def WellNamed : Node → Prop
  | leaf _ => True
  | group children => Entries.Distinct children ∧ ChildrenWellNamed children

/-- No group below the children has two children of one name. -/
def ChildrenWellNamed : List (String × Node) → Prop
  | [] => True
  | (_, node) :: rest => WellNamed node ∧ ChildrenWellNamed rest

end

@[simp] theorem find?_nil (node : Node) : node.find? [] = some node := by
  cases node <;> rfl

@[simp] theorem find?_leaf_cons (value : Leaf) (name : String) (rest : List String) :
    (leaf value).find? (name :: rest) = none := rfl

/-- A path through a group goes on in the child of its first name. -/
theorem find?_group_cons (children : List (String × Node)) (name : String)
    (rest : List String) :
    (group children).find? (name :: rest) =
      (Entries.get? children name).bind fun child => child.find? rest := by
  rw [find?]
  cases Entries.get? children name <;> rfl

@[simp] theorem leavesOf_nil (path : List String) : leavesOf path [] = [] := by
  simp [leavesOf]

@[simp] theorem leavesOf_cons (path : List String) (name : String) (node : Node)
    (rest : List (String × Node)) :
    leavesOf path ((name, node) :: rest) =
      leavesFrom (path ++ [name]) node ++ leavesOf path rest := by
  simp [leavesOf]

@[simp] theorem leavesFrom_leaf (path : List String) (value : Leaf) :
    leavesFrom path (leaf value) = [(path, value)] := by
  simp [leavesFrom]

@[simp] theorem leavesFrom_group (path : List String) (children : List (String × Node)) :
    leavesFrom path (group children) = leavesOf path children := by
  simp [leavesFrom]

end Node

end DesignTokens
