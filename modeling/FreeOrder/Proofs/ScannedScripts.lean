import FreeOrder.Proofs.ScannedSentences
import FreeOrder.Script.Scanner

namespace FreeOrder

namespace Excerpt

variable {excerpt : Excerpt} {line : Line}

end Excerpt

end FreeOrder
