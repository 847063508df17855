/-!
# Notices

What a command tells besides its answer: a level and one line of text.
-/

namespace DesignTokens

/-- How much a notice matters. -/
inductive Level where
  | debug
  | info
  | warning
  | error
deriving Repr, DecidableEq

namespace Level

/-- The name of a level. -/
def name : Level → String
  | debug => "DEBUG"
  | info => "INFO"
  | warning => "WARNING"
  | error => "ERROR"

/-- Levels by increasing weight. -/
def rank : Level → Nat
  | debug => 0
  | info => 1
  | warning => 2
  | error => 3

end Level

/-- One line that a command tells. -/
structure Notice where
  level : Level
  text : String
deriving Repr, DecidableEq

/-- The notices that weigh at least as much as a level, in order. -/
def noticesFrom (least : Level) (notices : List Notice) : List Notice :=
  notices.filter fun notice => least.rank ≤ notice.level.rank

end DesignTokens
