import FreeOrder.Script.Reading
import FreeOrder.Sentence.Scanner

namespace FreeOrder

namespace Excerpt

end Excerpt

end FreeOrder
