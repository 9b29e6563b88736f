import FreeOrder.RuntimeError
import FreeOrder.SyntaxError

namespace FreeOrder

/-- What is shown to a user about one place of a source. -/
structure Diagnostic where
  message : String
  source : Nat
  span : Span
  notes : List String := []
deriving DecidableEq, Repr

def SyntaxError.diagnostic (error : SyntaxError) : Diagnostic where
  message := error.fault.message
  source := error.source
  span := error.span
  notes := error.fault.notes

def LocatedError.diagnostic (located : LocatedError) : Diagnostic where
  message := located.error.message
  source := located.source
  span := located.span

end FreeOrder
