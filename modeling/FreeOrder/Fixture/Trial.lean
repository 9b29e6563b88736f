import FreeOrder.FileTree
import FreeOrder.Fixture.Discovery
import FreeOrder.Fixture.FrontMatter
import FreeOrder.Fixture.Verdict

namespace FreeOrder

/-- What came of a fixture: the file, the name it goes by, and the reason if it failed. -/
structure Trial where
  path : String
  name : String
  failure? : Option String
deriving DecidableEq, Repr

namespace Trial

def fileName (path : String) : String :=
  String.ofList (path.toList.reverse.takeWhile (· != '/')).reverse

/-- The name of a fixture that does not describe itself. -/
def nameOfPath (path : String) : String :=
  (FoundFile.stem? (fileName path)).getD "?"

def ofFile (complaint : Toml.Complaint) (path : String) (content : ByteArray) : Trial :=
  match (FileTree.file content).text with
  | .error failure => ⟨path, nameOfPath path, some ("cannot read file: " ++ failure.message)⟩
  | .ok text =>
    match Fixture.ofText complaint text with
    | .error error => ⟨path, nameOfPath path, some ("frontmatter error: " ++ error.message)⟩
    | .ok fixture =>
      ⟨path, fixture.description.getD (nameOfPath path), fixture.shortfall?.map Shortfall.message⟩

def passed (trial : Trial) : Bool :=
  trial.failure?.isNone

end Trial

end FreeOrder
