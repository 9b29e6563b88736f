import FreeOrder.Role

namespace FreeOrder

/-- A word of a sentence together with its role. The literal of an object includes its quotes. -/
inductive Term
  | verb (name : String)
  | directObject (literal : String)
deriving DecidableEq, Repr

namespace Term

def role : Term → Role
  | verb _ => .verb
  | directObject _ => .directObject

/-- The text between the parentheses of the term. -/
def text : Term → String
  | verb name => name
  | directObject literal => literal

/-- The term as it is written with the full marker of its role. -/
def spelling (term : Term) : String :=
  term.role.marker ++ "(" ++ term.text ++ ")"

end Term

end FreeOrder
