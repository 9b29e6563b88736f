import FreeOrder.Toml.Moment
import FreeOrder.Toml.Quoted

namespace FreeOrder.Toml

/-- What is said of a text that cannot be read as the settings that are asked for. -/
abbrev Complaint := String → String

/-- The values that a setting can have by itself. There is no setting with a number or an array. -/
inductive Scalar
  | text (content : String)
  | flag (isSet : Bool)
  | moment (moment : Moment)
deriving DecidableEq, Repr

/-- How a table was written. Only a table of dotted keys takes more keys from outside of it. -/
inductive TableForm
  | headed
  | dotted
  | inline
deriving DecidableEq, Repr

inductive Value
  | scalar (scalar : Scalar)
  | table (form : TableForm) (entries : List (String × Scalar))
deriving DecidableEq, Repr

/-- What one line, or one group of lines, of a document says. -/
inductive Entry
  | header (path : List String)
  | assignment (path : List String) (value : Value)
deriving DecidableEq, Repr

/--
The settings of a document, in which tables hold no further tables, and the table that the last
header opened.
-/
structure Document where
  entries : List (String × Value) := []
  current : Option String := none
deriving DecidableEq, Repr

def isKeyChar (c : Char) : Bool :=
  c.isAlphanum || c == '_' || c == '-'

def readSimpleKey (text : List Char) : Option (String × List Char) :=
  match text with
  | '"' :: rest => (readBasic rest).map fun (content, rest) => (String.ofList content, rest)
  | '\'' :: rest => (readLiteral rest).map fun (content, rest) => (String.ofList content, rest)
  | _ =>
    let key := text.takeWhile isKeyChar
    if key.isEmpty then none else some (String.ofList key, text.dropWhile isKeyChar)

/-- Reads the parts of a key, with dots between them, and the spaces around them. -/
def readKey (text : List Char) : Option (List String × List Char) := do
  let (part, rest) ← readSimpleKey (text.dropWhile isSpace)
  match rest.dropWhile isSpace with
  | '.' :: more =>
    if more.length < text.length then
      let (parts, rest) ← readKey more
      return (part :: parts, rest)
    else none
  | rest => return ([part], rest)
termination_by text.length

/-- Reads a value that is no table. -/
def readScalar (text : List Char) : Option (Scalar × List Char) :=
  match text with
  | 't' :: 'r' :: 'u' :: 'e' :: rest => some (.flag true, rest)
  | 'f' :: 'a' :: 'l' :: 's' :: 'e' :: rest => some (.flag false, rest)
  | '"' :: _ | '\'' :: _ => (readString text).map fun (content, rest) => (.text content, rest)
  | _ => (readMoment text).map fun (moment, rest) => (.moment moment, rest)

/-- Adds a setting with a new name. -/
def insertNew {α : Type} (name : String) (value : α) (entries : List (String × α)) :
    Option (List (String × α)) :=
  if (entries.lookup name).isSome then none else some (entries ++ [(name, value)])

/-- Reads the settings of a table in braces that are still to come after the ones given. -/
def readInlineEntries (entries : List (String × Scalar)) (text : List Char) :
    Option (List (String × Scalar) × List Char) := do
  let (path, rest) ← readKey text
  let rest ← readMark '=' rest
  let (scalar, rest) ← readScalar (rest.dropWhile isSpace)
  let entries ←
    match path with
    | [name] => insertNew name scalar entries
    | _ => none
  match rest.dropWhile isSpace with
  | '}' :: rest => return (entries, rest)
  | ',' :: more => if more.length < text.length then readInlineEntries entries more else none
  | _ => none
termination_by text.length

def readValue (text : List Char) : Option (Value × List Char) :=
  match text with
  | '{' :: rest =>
    match rest.dropWhile isSpace with
    | '}' :: rest => some (.table .inline [], rest)
    | _ => (readInlineEntries [] rest).map fun (entries, rest) => (.table .inline entries, rest)
  | _ => (readScalar text).map fun (scalar, rest) => (.scalar scalar, rest)

/-- Passes over the end of a line, with the spaces and the comment before it. -/
def readLineEnd (text : List Char) : Option (List Char) :=
  let rest :=
    match text.dropWhile isSpace with
    | '#' :: comment => comment.dropWhile isTextChar
    | rest => rest
  match rest with
  | [] => some []
  | '\n' :: rest | '\r' :: '\n' :: rest => some rest
  | _ => none

/-- Reads a header or an assignment, with the end of its line. -/
def readEntry (text : List Char) : Option (Entry × List Char) :=
  match text with
  | '[' :: rest => do
    let (path, rest) ← readKey rest
    let rest ← readMark ']' rest
    return (.header path, ← readLineEnd rest)
  | _ => do
    let (path, rest) ← readKey text
    let rest ← readMark '=' rest
    let (value, rest) ← readValue (rest.dropWhile isSpace)
    return (.assignment path value, ← readLineEnd rest)

/-- Reads headers and assignments to the end of the text. -/
def readEntries (text : List Char) : Option (List Entry) :=
  if text.isEmpty then some []
  else
    match readLineEnd text with
    | some rest => if rest.length < text.length then readEntries rest else none
    | none =>
      match readEntry (text.dropWhile isSpace) with
      | some (entry, rest) =>
        if rest.length < text.length then (readEntries rest).map (entry :: ·) else none
      | none => none
termination_by text.length

namespace Document

def value? (document : Document) (name : String) : Option Value :=
  document.entries.lookup name

/-- The document with another value in the place of the one with the name. -/
def replace (document : Document) (name : String) (value : Value) : Document :=
  { document with
    entries := document.entries.map fun entry =>
      if entry.1 = name then (name, value) else entry }

/-- Adds a value with a new name. -/
def insertNew (document : Document) (name : String) (value : Value) : Option Document :=
  (Toml.insertNew name value document.entries).map fun entries => { document with entries }

/-- Adds a setting to a table that was written in the given form. -/
def insertInto (document : Document) (form : TableForm) (table name : String) (value : Value) :
    Option Document := do
  let .scalar scalar := value | none
  let .table written entries ← document.value? table | none
  if written = form then
    let entries ← Toml.insertNew name scalar entries
    return document.replace table (.table form entries)
  else none

/-- Adds what a header or an assignment says. -/
def add (document : Document) : Entry → Option Document
  | .header [name] => do
    let document ← document.insertNew name (.table .headed [])
    return { document with current := some name }
  | .assignment [name] value =>
    match document.current with
    | none => document.insertNew name value
    | some table => document.insertInto .headed table name value
  | .assignment [table, name] value =>
    match document.current with
    | none =>
      if (document.value? table).isSome then document.insertInto .dotted table name value
      else do
        let document ← document.insertNew table (.table .dotted [])
        document.insertInto .dotted table name value
    | some _ => none
  | _ => none

/-- Reads a document. A byte order mark at its front is passed over. -/
def ofText? (text : String) : Option Document := do
  let text :=
    match text.toList with
    | '\uFEFF' :: rest => rest
    | text => text
  let entries ← readEntries text
  entries.foldlM add {}

end Document

end FreeOrder.Toml
