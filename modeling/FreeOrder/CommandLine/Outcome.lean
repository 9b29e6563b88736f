import FreeOrder.CommandLine.Request
import FreeOrder.Diagnostic
import FreeOrder.Fixture.Report
import FreeOrder.Outline

namespace FreeOrder

/-- Why a registry file gives no registry. -/
inductive RegistryError
  | unreadable (path : String) (failure : ReadFailure)
  | malformed (reason : String)
  | invalid (error : VerbTableError)
deriving DecidableEq, Repr

def RegistryError.message : RegistryError → String
  | unreadable path failure => "cannot read '" ++ path ++ "': " ++ failure.message
  | malformed reason => "TOML parse error: " ++ reason
  | invalid error => error.message

/-- What a command finds at each path, and what is said of settings there that cannot be read: of a
registry file, and of the front matter of a fixture. -/
structure Files where
  find : String → Except ReadFailure FileTree
  ofRegistry : Toml.Complaint
  ofFixture : Toml.Complaint

namespace Files

def text (files : Files) (path : String) : Except ReadFailure String :=
  match files.find path with
  | .error failure => .error failure
  | .ok tree => tree.text

/-- The registry in the file at the path, or the standard one if no path is given. -/
def registry (files : Files) (path? : Option String) : Except RegistryError Registry :=
  match path? with
  | none => .ok .standard
  | some path =>
    match files.text path with
    | .error failure => .error (.unreadable path failure)
    | .ok text =>
      match VerbTable.ofToml? text with
      | none => .error (.malformed (files.ofRegistry text))
      | some table =>
        match table.registry with
        | .error error => .error (.invalid error)
        | .ok registry => .ok registry

end Files

def Diagnostic.headline (diagnostic : Diagnostic) : String :=
  "error: " ++ diagnostic.message

namespace CommandLine

/-- How a command ended: its exit code, what it wrote, and the messages it gave. -/
structure Outcome where
  exitCode : Nat := 0
  output : String := ""
  messages : List String := []
deriving DecidableEq, Repr

namespace Outcome

def failure (messages : List String) : Outcome where
  exitCode := 1
  messages := messages

/-- Carries out a script, and shows the state that the handler is left in. -/
def ofExecution {σ : Type} (handler : Handler σ) (start : σ) (shown : σ → String)
    (script : Script) (registry : Registry) : Outcome :=
  match script.execute registry handler start with
  | (.ok _, state) => { output := shown state }
  | (.error error, state) => { failure [error.diagnostic.headline] with output := shown state }

/-- Carries out a script, and writes what it puts out. -/
def ofScript (script : Script) (registry : Registry) : Outcome :=
  ofExecution Handler.text "" id script registry

/-- Carries out a script, and drops what it puts out. -/
def ofSilentScript (script : Script) (registry : Registry) : Outcome :=
  ofExecution Handler.silent () (fun _ => "") script registry

/-- Resolves a script without carrying it out. -/
def ofCheck (file : String) (script : Script) (registry : Registry) : Outcome :=
  match script.check registry with
  | .ok _ => { messages := ["ok: " ++ file ++ " parsed successfully"] }
  | .error error => failure [error.diagnostic.headline]

/-- Continues with the registry, if there is one. -/
def withRegistry (files : Files) (path? : Option String) (next : Registry → Outcome) : Outcome :=
  match files.registry path? with
  | .error error => failure ["error: " ++ error.message]
  | .ok registry => next registry

/-- Runs, checks or shows the script in a file. -/
def ofRun (files : Files) (registryPath : Option String) (file : String)
    (check outline quiet : Bool) : Outcome :=
  match files.text file with
  | .error reason => failure ["error: cannot read '" ++ file ++ "': " ++ reason.message]
  | .ok text =>
    match (Excerpt.ofString text).readScript with
    | .error errors => failure (errors.map (·.diagnostic.headline))
    | .ok script =>
      if outline then { output := script.outline.render ++ "\n" }
      else
        withRegistry files registryPath fun registry =>
          if check then ofCheck file script registry
          else if quiet then ofSilentScript script registry
          else ofScript script registry

/-- Carries out or shows one sentence. -/
def ofEval (files : Files) (registryPath : Option String) (sentence : String) (outline : Bool) :
    Outcome :=
  let excerpt := Excerpt.ofString sentence
  match excerpt.readTerms with
  | .error error => failure [error.diagnostic.headline]
  | .ok terms =>
    let statement : Statement := ⟨terms, excerpt.span, 1⟩
    if outline then { output := statement.sentence.outline.render ++ "\n" }
    else withRegistry files registryPath (ofScript ⟨[statement], excerpt.source⟩)

/-- Lists the verbs with their actions. -/
def ofVerbs (files : Files) (registryPath : Option String) : Outcome :=
  withRegistry files registryPath fun registry =>
    { output := String.join (registry.toList.map fun entry =>
        entry.1 ++ " -> " ++ entry.2.name ++ "\n") }

def joinPath (path : String) (steps : List String) : String :=
  let between := if path.toList.getLast? = some '/' then "" else "/"
  path ++ between ++ "/".intercalate steps

/-- Counts the fixtures at the path by their categories. -/
def ofListing (path : String) (found : Except ReadFailure FileTree) : Outcome :=
  match found with
  | .ok (.file _) => { messages := ["(single file, no categories)"] }
  | _ =>
    let categories := (found.toOption.map FileTree.categories).getD []
    if categories.isEmpty then
      { messages := ["no " ++ FoundFile.suffix ++ " files found in " ++ path] }
    else
      { messages := categories.map fun (category, files) =>
          let count := toString files.length
          "".pushn ' ' (4 - count.length) ++ count ++ "  " ++ category.label }

/-- The categories of the fixtures at the path that are requested, each with its trials. -/
def trials (complaint : Toml.Complaint) (path : String) (found : Except ReadFailure FileTree)
    (requested : List String) : List (Category × List Trial) :=
  match found with
  | .error _ => []
  | .ok (.file content) => [("", [Trial.ofFile complaint path content])]
  | .ok tree =>
    (Category.select tree.categories requested).map fun (category, files) =>
      (category, files.map fun file =>
        Trial.ofFile complaint (joinPath path file.path) file.content)

/-- Tries out the requested fixtures at the path. -/
def ofTest (complaint : Toml.Complaint) (path : String) (found : Except ReadFailure FileTree)
    (requested : List String) (inColor : Bool) : Outcome :=
  match trials complaint path found requested with
  | [] => failure ["no " ++ FoundFile.suffix ++ " files to run under " ++ path]
  | groups =>
    let report : Report := ⟨groups, inColor⟩
    { exitCode := if report.failed.isEmpty then 0 else 1, messages := report.lines }

end Outcome

def Request.fulfil (request : Request) (files : Files) : Outcome :=
  match request.command with
  | .run file check outline quiet => .ofRun files request.registry file check outline quiet
  | .eval sentence outline => .ofEval files request.registry sentence outline
  | .verbs => .ofVerbs files request.registry
  | .test path categories list =>
    if list then .ofListing path (files.find path)
    else .ofTest files.ofFixture path (files.find path) categories request.inColor

end CommandLine

end FreeOrder
