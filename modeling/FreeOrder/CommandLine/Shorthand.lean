namespace FreeOrder.CommandLine

def commandNames : List String :=
  ["run", "eval", "verbs", "test", "help"]

/-- The words after which the next word is the value of an option. -/
def valueOptions : List String :=
  ["-r", "--registry", "-c", "--category"]

def hasDash (word : String) : Bool :=
  word.toList.head? == some '-'

/-- Puts `run` before the first word that is no option and no value, unless that is a command. -/
def insertRun : List String → List String
  | [] => []
  | word :: rest =>
    if word ∈ valueOptions then
      match rest with
      | [] => [word]
      | value :: rest => word :: value :: insertRun rest
    else if hasDash word then word :: insertRun rest
    else if word ∈ commandNames then word :: rest
    else "run" :: word :: rest

/-- Completes a command line that starts with the name of the program. -/
def complete : List String → List String
  | [] => []
  | program :: words => program :: insertRun words

end FreeOrder.CommandLine
