import FreeOrder.Span

namespace FreeOrder

/-- The ways in which a text can fail to be a sentence. -/
inductive SyntaxFault
  | noTerm
  | noMarker
  | unknownMarker (marker : String)
  | noOpening (marker : String)
  | noVerbName
  | openingInVerbName
  | unclosedVerbName
  | noQuote
  | unclosedLiteral
  | noClosingAfterLiteral
  | strayClosing
  | noGap
deriving DecidableEq, Repr

namespace SyntaxFault

def message : SyntaxFault → String
  | noTerm => "expected a term"
  | noMarker => "expected a role marker"
  | unknownMarker marker => "unknown role marker `" ++ marker ++ "`"
  | noOpening marker => "expected `(` after `" ++ marker ++ "`"
  | noVerbName => "missing verb name"
  | openingInVerbName => "unbalanced parentheses: unexpected `(` in verb name"
  | unclosedVerbName => "unbalanced parentheses: missing `)` after verb name"
  | noQuote => "expected a quoted literal"
  | unclosedLiteral => "unterminated string literal"
  | noClosingAfterLiteral => "unbalanced parentheses: expected `)` after literal"
  | strayClosing => "unbalanced parentheses: unexpected `)`"
  | noGap => "expected whitespace between terms"

/-- What a user is told about mending the fault. -/
def notes : SyntaxFault → List String
  | noTerm => ["a sentence needs at least one `verb(...)` or `direct-object(...)` term"]
  | unknownMarker _ => ["expected one of `verb`, `v`, `direct-object`, `o`"]
  | noQuote => ["direct objects are written as `direct-object(\"...\")`"]
  | _ => []

end SyntaxFault

/-- A fault, the text it was found in, and where that text begins in which source. -/
structure SyntaxError where
  fault : SyntaxFault
  fragment : String
  start : Nat
  source : Nat
deriving DecidableEq, Repr

namespace SyntaxError

def span (error : SyntaxError) : Span :=
  .ofText error.start error.fragment.toList

/-- The message with the faulty text, if there is any. -/
def description (error : SyntaxError) : String :=
  if error.fragment.isEmpty then error.fault.message
  else error.fault.message ++ " at `" ++ error.fragment ++ "`"

end SyntaxError

end FreeOrder
