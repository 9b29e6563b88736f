import FreeOrder.Registry
import FreeOrder.Role
import FreeOrder.Span

namespace FreeOrder

/-- The ways in which a sentence can fail to be carried out. -/
inductive RuntimeError
  | unknownVerb (name : String)
  | missingVerb
  | duplicateRole (role : Role)
  | unsupportedAction (action : Action)
  | outputFailed (reason : String)
deriving DecidableEq, Repr

def RuntimeError.message : RuntimeError → String
  | unknownVerb name => "unknown verb: " ++ name
  | missingVerb => "missing verb: sentence has no verb term"
  | duplicateRole role => "duplicate role: more than one " ++ role.marker ++ " term"
  | unsupportedAction action => "unsupported action: " ++ action.name
  | outputFailed reason => "I/O error: " ++ reason

/-- An error with the range of the source that it is about. -/
structure LocatedError where
  error : RuntimeError
  span : Span
  source : Nat
deriving DecidableEq, Repr

end FreeOrder
