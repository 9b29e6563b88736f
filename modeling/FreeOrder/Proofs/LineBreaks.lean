import FreeOrder.Proofs.LineAccount
import FreeOrder.Proofs.TrailingBlanks

namespace FreeOrder

namespace Excerpt

variable {excerpt : Excerpt} {text gap : List Char} {source offset : Nat}
  {terms : List (Located Term)}

end Excerpt

namespace Line

variable {line : Line} {lines : List Line} {source number start : Nat} {text : List Char}
  {pieces : List (List Char)} {terms : List (Located Term)}

end Line

namespace Excerpt

variable {excerpt : Excerpt} {terms : List (Located Term)} {statements : List Statement}

end Excerpt

end FreeOrder
