import FreeOrder.Sentence

namespace FreeOrder

/-- The sentence on one line of a script. -/
structure Statement where
  terms : List (Located Term)
  span : Span
  line : Nat
deriving DecidableEq, Repr

namespace Statement

def nodes (statement : Statement) : List Term :=
  statement.terms.map (·.node)

def sentence (statement : Statement) : Sentence :=
  .ofTerms statement.nodes

def spansOf (statement : Statement) (role : Role) : List Span :=
  (statement.terms.filter fun term => term.node.role == role).map (·.span)

/-- The place of the first term with the role. -/
def spanOf? (statement : Statement) (role : Role) : Option Span :=
  (statement.spansOf role).head?

end Statement

structure Script where
  statements : List Statement
  source : Nat
deriving DecidableEq, Repr

end FreeOrder
