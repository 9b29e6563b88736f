import FreeOrder.Proofs.ScannerSafety

namespace FreeOrder

namespace Scan.Outcome

variable {α : Type} {outcome : Outcome α} {value : α}

end Scan.Outcome

namespace Excerpt

variable {excerpt : Excerpt} {terms : List (Located Term)} {error : SyntaxError}

end Excerpt

end FreeOrder
