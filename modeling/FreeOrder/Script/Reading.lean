import FreeOrder.Script
import FreeOrder.Sentence.Reading
import FreeOrder.Text.Lines

namespace FreeOrder

/-- A line of a source, without its end, with its number and the byte position of its beginning. -/
structure Line where
  number : Nat
  start : Nat
  text : List Char
deriving DecidableEq, Repr

namespace Line

/-- Gives pieces that stand one after the other their numbers and positions. -/
def ofPieces (number start : Nat) : List (List Char) → List Line
  | [] => []
  | piece :: pieces =>
    ⟨number, start, Text.dropLineEnd piece⟩ ::
      ofPieces (number + 1) (start + Text.byteLength piece) pieces

/-- A line that holds no sentence: it is blank, or its first character that is not blank is `#`. -/
def isSkipped (line : Line) : Bool :=
  match Text.trimStart line.text with
  | [] => true
  | c :: _ => c == '#'

/-- The line as an excerpt of the source. -/
def excerpt (line : Line) (source : Nat) : Excerpt :=
  ⟨line.text, source, line.start⟩

def readStatement (source : Nat) (line : Line) : Except SyntaxError Statement :=
  let excerpt := line.excerpt source
  excerpt.readTerms.map fun terms => ⟨terms, excerpt.span, line.number⟩

end Line

/-- All the values, or else all the errors. -/
def collect {ε α : Type} (results : List (Except ε α)) : Except (List ε) (List α) :=
  match results.filterMap fun | .error error => some error | .ok _ => none with
  | [] => .ok (results.filterMap fun | .error _ => none | .ok value => some value)
  | errors => .error errors

namespace Excerpt

def lines (excerpt : Excerpt) : List Line :=
  Line.ofPieces 1 excerpt.offset (Text.lines excerpt.text)

/-- Reads every line that holds a sentence, or else reports every line that fails to. Its positions
are natural numbers; `scanStatements` is this reader with sums of 64 bits. -/
def readStatements (excerpt : Excerpt) : Except (List SyntaxError) (List Statement) :=
  collect ((excerpt.lines.filter (!·.isSkipped)).map (·.readStatement excerpt.source))

def readScript (excerpt : Excerpt) : Except (List SyntaxError) Script :=
  excerpt.readStatements.map (⟨·, excerpt.source⟩)

end Excerpt

end FreeOrder
