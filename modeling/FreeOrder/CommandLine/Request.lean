import FreeOrder.CommandLine.Words

namespace FreeOrder.CommandLine

/-- What the program is asked to do. -/
inductive Command
  | run (file : String) (check outline quiet : Bool)
  | eval (sentence : String) (outline : Bool)
  | verbs
  | test (path : String) (categories : List String) (list : Bool)
deriving DecidableEq, Repr

/-- A command with the settings that all commands share. -/
structure Request where
  command : Command
  registry : Option String
  inColor : Bool
deriving DecidableEq, Repr

namespace Request

/-- Reads the words after the name of a command up to the last. -/
def readCommand (level : Level) (rest : List String) : Except Stop Words :=
  match Words.read level {} rest with
  | .error stop => .error stop
  | .ok (words, _) => if words.arguments.length = level.arity then .ok words else .error .usage

/-- The request of the command. Settings given after its name go before those given earlier. -/
def make (program words : Words) (command : Command) : Request where
  command := command
  registry := (words.values .registry).head?.or (program.values .registry).head?
  inColor := !(words.has .noColor || program.has .noColor)

/-- Reads a command line without the name of the program. -/
def ofWords (words : List String) : Except Stop Request := do
  let (program, rest) ← Words.read .program {} words
  match rest with
  | "run" :: rest =>
    let words ← readCommand .run rest
    let file := words.arguments.headD ""
    return make program words (.run file (words.has .check) (words.has .ast) (words.has .quiet))
  | "eval" :: rest =>
    let words ← readCommand .eval rest
    return make program words (.eval (words.arguments.headD "") (words.has .ast))
  | "verbs" :: rest =>
    let words ← readCommand .verbs rest
    return make program words .verbs
  | "test" :: rest =>
    let words ← readCommand .test rest
    let path := words.arguments.headD ""
    return make program words (.test path (words.values .category) (words.has .listCategories))
  | ["help"] => throw .help
  | ["help", topic] => throw (if topic ∈ commandNames then .help else .usage)
  | _ => throw .usage

def paths (request : Request) : List String :=
  let own :=
    match request.command with
    | .run file _ _ _ => [file]
    | .test path _ _ => [path]
    | _ => []
  own ++ request.registry.toList

end Request

end FreeOrder.CommandLine
