import FreeOrder.Registry
import FreeOrder.Text.Blank
import FreeOrder.Text.Quoted
import FreeOrder.Toml.Document

namespace FreeOrder

/-- The verbs that a user has defined, with the names of their actions, not yet checked. -/
abbrev VerbTable := Std.TreeMap String String

/-- What can be wrong with an entry of a verb table. -/
inductive VerbTableError
  | invalidVerb (name : String)
  | emptyAction (verb : String)
deriving DecidableEq, Repr

def VerbTableError.message : VerbTableError → String
  | invalidVerb name =>
    "invalid verb name " ++ Text.quote name ++
      ": must be non-empty with no whitespace or parentheses"
  | emptyAction verb => "verb '" ++ verb ++ "' maps to an empty action"

/-- A name that can be written in a verb term. -/
def isVerbName (name : String) : Bool :=
  !name.isEmpty && !name.toList.any fun c => isBlank c || c == '(' || c == ')'

namespace VerbTable

/-- The table of the entries. Of two entries for one verb the later one counts. -/
def ofList (entries : List (String × String)) : VerbTable :=
  entries.foldl (fun table entry => table.insert entry.1 entry.2) ∅

def entryError? (entry : String × String) : Option VerbTableError :=
  if !isVerbName entry.1 then some (.invalidVerb entry.1)
  else if (Text.trim entry.2.toList).isEmpty then some (.emptyAction entry.1)
  else none

/-- The registry of the table, unless an entry is wrong. Of several the least name is reported. -/
def registry (table : VerbTable) : Except VerbTableError Registry :=
  match table.toList.findSome? entryError? with
  | some error => .error error
  | none => .ok (.ofList (table.toList.map fun entry => (entry.1, ⟨entry.2⟩)))

/-- The key under which a moment appears when it is read as a table. -/
def momentKey : String := "$__toml_private_datetime"

/-- Reads a value as a table of texts. A moment counts as a table with its text as only entry. -/
def ofValue? : Toml.Value → Option VerbTable
  | .table _ entries => do
    let entries ← entries.mapM fun
      | (name, .text content) => some (name, content)
      | _ => none
    return ofList entries
  | .scalar (.moment moment) => some (ofList [(momentKey, moment.text)])
  | .scalar _ => none

/-- Reads the verb table of a registry file, whose only key is `verbs`. -/
def ofToml? (text : String) : Option VerbTable := do
  let document ← Toml.Document.ofText? text
  match document.entries with
  | [] => return ∅
  | [("verbs", value)] => ofValue? value
  | _ => none

end VerbTable

end FreeOrder
