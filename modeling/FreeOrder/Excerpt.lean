import FreeOrder.Span

namespace FreeOrder

/-- A piece of a source, with the byte position at which it begins there. -/
structure Excerpt where
  text : List Char
  source : Nat := 0
  offset : Nat := 0
deriving DecidableEq, Repr

namespace Excerpt

def ofString (text : String) : Excerpt where
  text := text.toList

def span (excerpt : Excerpt) : Span :=
  .ofText excerpt.offset excerpt.text

end Excerpt

end FreeOrder
