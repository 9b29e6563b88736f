import FreeOrder.CommandLine.Shorthand

namespace FreeOrder.CommandLine

/-- The options of the program and of its commands. -/
inductive Flag
  | noColor
  | verbose
  | registry
  | check
  | ast
  | quiet
  | category
  | listCategories
  | help
  | version
deriving DecidableEq, Repr

namespace Flag

/-- The name of the option after two dashes. -/
def long : Flag → String
  | noColor => "no-color"
  | verbose => "verbose"
  | registry => "registry"
  | check => "check"
  | ast => "ast"
  | quiet => "quiet"
  | category => "category"
  | listCategories => "list-categories"
  | help => "help"
  | version => "version"

/-- The letter of the option after one dash. -/
def short? : Flag → Option Char
  | verbose => some 'v'
  | registry => some 'r'
  | quiet => some 'q'
  | category => some 'c'
  | help => some 'h'
  | version => some 'V'
  | _ => none

def takesValue : Flag → Bool
  | registry | category => true
  | _ => false

def isRepeatable : Flag → Bool
  | verbose | category => true
  | _ => false

end Flag

/-- Why a command line leads to no command. -/
inductive Stop
  | usage
  | help
  | version
deriving DecidableEq, Repr

namespace Stop

def usageText : String :=
  "Usage: [--no-color] [-v] [-r FILE] COMMAND\n\n" ++
    "  run FILE [--check] [--ast] [-q]                  carry out a script\n" ++
    "  eval SENTENCE [--ast]                            carry out a sentence\n" ++
    "  verbs                                            list the verbs\n" ++
    "  test PATH [-c CATEGORY]... [--list-categories]   try out fixtures\n"

def text : Stop → String
  | usage | help => usageText
  | version => "flexverb 0.1.0\n"

/-- Whether the user has made a mistake. -/
def isFailure : Stop → Bool
  | usage => true
  | help | version => false

def exitCode (stop : Stop) : Nat :=
  if stop.isFailure then 2 else 0

end Stop

/-- What may stand on one level of the command line, that of the program or that of a command. -/
structure Level where
  flags : List Flag
  arity : Nat
  commands : List String

namespace Level

def sharedFlags : List Flag := [.noColor, .verbose, .registry, .help]

def program : Level := ⟨.version :: sharedFlags, 0, commandNames⟩

def run : Level := ⟨.check :: .ast :: .quiet :: sharedFlags, 1, []⟩

def eval : Level := ⟨.ast :: sharedFlags, 1, []⟩

def verbs : Level := ⟨sharedFlags, 0, []⟩

def test : Level := ⟨.category :: .listCategories :: sharedFlags, 1, []⟩

end Level

/-- What has been read on a level: options with their values, arguments, and what comes next. -/
structure Words where
  options : List (Flag × String) := []
  arguments : List String := []
  awaiting : Option Flag := none
  onlyArguments : Bool := false
deriving DecidableEq, Repr

namespace Words

def values (words : Words) (flag : Flag) : List String :=
  (words.options.filter (·.1 = flag)).map (·.2)

def has (words : Words) (flag : Flag) : Bool :=
  !(words.values flag).isEmpty

/-- Adds an option. A registry needs a name, and most options can be given only once. -/
def addOption (words : Words) (flag : Flag) (value : String) : Except Stop Words :=
  match flag with
  | .help => .error .help
  | .version => .error .version
  | _ =>
    if words.has flag && !flag.isRepeatable || flag = .registry && value.isEmpty then .error .usage
    else .ok { words with options := words.options ++ [(flag, value)], awaiting := none }

/-- Adds an argument, if the level takes another one. -/
def addArgument (level : Level) (words : Words) (argument : String) : Except Stop Words :=
  if words.arguments.length < level.arity then
    .ok { words with arguments := words.arguments ++ [argument] }
  else .error .usage

/-- Reads an option with its full name, which may have a value attached to it. -/
def readLong (level : Level) (words : Words) (text : List Char) : Except Stop Words :=
  let name := String.ofList (text.takeWhile (· != '='))
  match level.flags.find? (·.long == name), text.dropWhile (· != '=') with
  | none, _ => .error .usage
  | some flag, [] =>
    if flag.takesValue then .ok { words with awaiting := some flag } else words.addOption flag ""
  | some flag, _ :: value =>
    if flag.takesValue then words.addOption flag (String.ofList value) else .error .usage

/-- Reads options by their letters. The first that takes a value takes the rest of the word. -/
def readShort (level : Level) (words : Words) : List Char → Except Stop Words
  | [] => .ok words
  | letter :: text =>
    match level.flags.find? (·.short? == some letter) with
    | none => .error .usage
    | some flag =>
      if flag.takesValue then
        match text with
        | [] => .ok { words with awaiting := some flag }
        | '=' :: value => words.addOption flag (String.ofList value)
        | value => words.addOption flag (String.ofList value)
      else
        match words.addOption flag "" with
        | .ok words => readShort level words text
        | .error stop => .error stop

/-- Reads one word that is not the name of a command. -/
def readWord (level : Level) (words : Words) (word : String) : Except Stop Words :=
  match words.awaiting with
  | some flag =>
    if hasDash word && word.length ≠ 1 then .error .usage else words.addOption flag word
  | none =>
    if words.onlyArguments then words.addArgument level word
    else
      match word.toList with
      | ['-', '-'] => .ok { words with onlyArguments := true }
      | '-' :: '-' :: text => readLong level words text
      | '-' :: letter :: text => readShort level words (letter :: text)
      | _ => words.addArgument level word

/-- Reads up to the name of a command, which is left in front of the words after it. -/
def read (level : Level) (words : Words) : List String → Except Stop (Words × List String)
  | [] => if words.awaiting.isSome then .error .usage else .ok (words, [])
  | word :: rest =>
    if words.awaiting.isNone && !words.onlyArguments && level.commands.contains word then
      .ok (words, word :: rest)
    else
      match readWord level words word with
      | .ok words => read level words rest
      | .error stop => .error stop

end Words

end FreeOrder.CommandLine
