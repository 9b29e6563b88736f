import FreeOrder.Fixture
import FreeOrder.Text.Lines

namespace FreeOrder

/-- What can be wrong with the text of a fixture. -/
inductive FrontMatterError
  | noOpening
  | noClosing
  | malformed (reason : String)
deriving DecidableEq, Repr

def FrontMatterError.message : FrontMatterError → String
  | noOpening => "missing opening --- frontmatter delimiter"
  | noClosing => "missing closing --- frontmatter delimiter"
  | malformed reason => "TOML parse error: " ++ reason

namespace FrontMatter

/-- Cuts the text at the first line, other than its first, that begins with three dashes. -/
def splitAtClosing : List Char → Option (List Char × List Char)
  | [] => none
  | '\n' :: '-' :: '-' :: '-' :: rest => some ([], rest)
  | c :: rest => (splitAtClosing rest).map fun (front, back) => (c :: front, back)

def dropReturns (text : List Char) : List Char :=
  (text.reverse.dropWhile (· == '\r')).reverse

/-- Splits the text of a fixture into its front matter and its source. -/
def split (content : List Char) : Except FrontMatterError (List Char × List Char) :=
  match content.dropWhile (· == '\uFEFF') with
  | '-' :: '-' :: '-' :: rest =>
    match splitAtClosing (Text.dropLineBreak rest) with
    | some (front, back) => .ok (dropReturns front, Text.dropLineBreak back)
    | none => .error .noClosing
  | _ => .error .noOpening

end FrontMatter

/-- Reads a fixture, or gives what the complaint says of its front matter. -/
def Fixture.ofText (complaint : Toml.Complaint) (content : String) :
    Except FrontMatterError Fixture :=
  match FrontMatter.split content.toList with
  | .error error => .error error
  | .ok (front, back) =>
    match Fixture.ofToml? (String.ofList front) (String.ofList back) with
    | some fixture => .ok fixture
    | none => .error (.malformed (complaint (String.ofList front)))

end FreeOrder
