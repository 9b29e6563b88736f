import FreeOrder.Proofs.Listing
import FreeOrder.Proofs.ScannedScripts
import Mathlib.Data.List.Forall2

namespace FreeOrder

section Matching

variable {ε α β γ : Type} {results : List (Except ε α)}

end Matching

namespace Text

end Text

namespace Excerpt

variable {excerpt : Excerpt} {terms : List (Located Term)}

end Excerpt

namespace Line

variable {line : Line} {text : List Char} {pieces : List (List Char)}

end Line

namespace Excerpt

variable {excerpt : Excerpt} {line : Line} {statements : List Statement} {errors : List SyntaxError}

section Fitting

variable (hfits : excerpt.offset + Text.byteLength excerpt.text < UInt64.size)
include hfits

end Fitting

end Excerpt

end FreeOrder
