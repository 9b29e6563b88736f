import FreeOrder.Script
import FreeOrder.Text.Quoted

namespace FreeOrder

/-- The lines of a listing of nested values. -/
abbrev Outline := List String

namespace Outline

/-- The outline four spaces further to the right, with a comma after it. -/
def item : Outline → Outline
  | [] => []
  | [last] => ["    " ++ last ++ ","]
  | line :: lines => ("    " ++ line) :: item lines

def labelled (label : String) : Outline → Outline
  | [] => []
  | first :: others => (label ++ ": " ++ first) :: others

/-- Items between an opening and a closing mark, which share a line when there are no items. -/
def enclosed (opening closing : String) : List Outline → Outline
  | [] => [opening ++ closing]
  | items => opening :: items.flatMap item ++ [closing]

def list : List Outline → Outline :=
  enclosed "[" "]"

/-- A named value with one part. -/
def wrapped (name : String) (value : Outline) : Outline :=
  enclosed (name ++ "(") ")" [value]

/-- A named value with labelled parts. -/
def record (name : String) (fields : List (String × Outline)) : Outline :=
  enclosed (name ++ " \x7b") "\x7d" (fields.map fun field => labelled field.1 field.2)

def render (outline : Outline) : String :=
  "\n".intercalate outline

end Outline

def Span.outline (span : Span) : Outline :=
  [toString span.start ++ ".." ++ toString span.stop]

def Term.outline : Term → Outline
  | verb name => .record "Verb" [("name", [Text.quote name])]
  | directObject literal => .record "DirectObject" [("literal", [Text.quote literal])]

def Sentence.outline : Sentence → Outline
  | single term => .wrapped "Single" term.outline
  | many terms => .wrapped "Many" (.list (terms.map Term.outline))

def locatedOutline (term : Located Term) : Outline :=
  .record "Spanned" [("node", term.node.outline), ("span", term.span.outline)]

def Statement.outline (statement : Statement) : Outline :=
  .record "Statement" [
    ("terms", .list (statement.terms.map locatedOutline)),
    ("span", statement.span.outline),
    ("line", [toString statement.line])]

def Script.outline (script : Script) : Outline :=
  .record "Script" [
    ("statements", .list (script.statements.map Statement.outline)),
    ("source_id", [toString script.source])]

end FreeOrder
