import FreeOrder.Text.Bytes

namespace FreeOrder

/-- A half-open range of byte positions. -/
structure Span where
  start : Nat
  stop : Nat
deriving DecidableEq, Repr, Inhabited

/-- The range that the text takes up when it begins at the position. -/
def Span.ofText (start : Nat) (text : List Char) : Span :=
  ⟨start, start + Text.byteLength text⟩

/-- A value together with the range of the source that it was read from. -/
structure Located (α : Type) where
  node : α
  span : Span
deriving DecidableEq, Repr

end FreeOrder
