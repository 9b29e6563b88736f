namespace FreeOrder

/-- A category is the path of a folder, with a slash between its parts. -/
abbrev Category := String

namespace Category

def label (category : Category) : String :=
  if category.isEmpty then "(root)" else category

/-- Whether the category is the named one or lies below it. -/
def isWithin (category name : Category) : Bool :=
  category == name || (name.toList ++ ['/']).isPrefixOf category.toList

def trimSlashes (name : String) : String :=
  let front := name.toList.dropWhile (· == '/')
  String.ofList (front.reverse.dropWhile (· == '/')).reverse

/-- The entries in the requested categories, or all of them if none is requested. -/
def select {α : Type} (entries : List (Category × α)) (requested : List String) :
    List (Category × α) :=
  if requested.isEmpty then entries
  else
    let names := requested.map trimSlashes
    entries.filter fun entry => names.any (isWithin entry.1)

end Category

end FreeOrder
