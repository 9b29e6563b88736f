namespace FreeOrder

/-- A file with its bytes, or a folder with its entries in the order of a listing. -/
inductive FileTree
  | file (content : ByteArray)
  | folder (entries : List (String × FileTree))

/-- The reasons for which a path cannot be read as a text. -/
inductive ReadFailure
  | notFound
  | notFolder
  | isFolder
  | nameTooLong
  | notText
deriving DecidableEq, Repr

def ReadFailure.message : ReadFailure → String
  | notFound => "No such file or directory (os error 2)"
  | notFolder => "Not a directory (os error 20)"
  | isFolder => "Is a directory (os error 21)"
  | nameTooLong => "File name too long (os error 36)"
  | notText => "stream did not contain valid UTF-8"

namespace FileTree

def text : FileTree → Except ReadFailure String
  | folder _ => .error .isFolder
  | file content =>
    match String.fromUTF8? content with
    | some text => .ok text
    | none => .error .notText

def maxNameBytes : Nat := 255

def maxPathBytes : Nat := 4095

/--
Follows the steps of a path, given the folders passed through so far, the nearest first. The root
lies in itself.
-/
def follow (passed : List FileTree) (here : FileTree) : List String → Except ReadFailure FileTree
  | [] => .ok here
  | step :: steps =>
    match here with
    | file _ => .error .notFolder
    | folder entries =>
      if step = "" ∨ step = "." then follow passed here steps
      else if step = ".." then
        match passed with
        | [] => follow [] here steps
        | parent :: passed => follow passed parent steps
      else if maxNameBytes < step.utf8ByteSize then .error .nameTooLong
      else
        match entries.lookup step with
        | some next => follow (here :: passed) next steps
        | none => .error .notFound

/-- Looks up a path. One without a slash at its front starts at the folder that `home` leads to. -/
def find (root : FileTree) (home : List String) (path : String) : Except ReadFailure FileTree :=
  let steps := (path.toList.splitOn '/').map String.ofList
  if path.isEmpty then .error .notFound
  else if maxPathBytes < path.utf8ByteSize then .error .nameTooLong
  else if path.toList.head? = some '/' then follow [] root steps
  else follow [] root (home ++ steps)

mutual

/-- The files of the tree in the order of its listings, each with the path that leads to it. -/
def files : FileTree → List (List String × ByteArray)
  | file content => [([], content)]
  | folder entries => filesOfEntries entries

def filesOfEntries : List (String × FileTree) → List (List String × ByteArray)
  | [] => []
  | (name, tree) :: entries =>
    (files tree).map (fun found => (name :: found.1, found.2)) ++ filesOfEntries entries

end

end FileTree

end FreeOrder
