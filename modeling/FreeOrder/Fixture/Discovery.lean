import FreeOrder.Category
import FreeOrder.FileTree
import Std.Data.TreeMap

namespace FreeOrder

/-- A file below some folder, with the path that leads to it from there. -/
structure FoundFile where
  path : List String
  content : ByteArray

namespace FoundFile

def suffix : String := ".test.fv"

/-- The name of the file without the ending that marks fixtures. -/
def stem? (name : String) : Option String :=
  if suffix.toList.isSuffixOf name.toList then
    some (String.ofList (name.toList.take (name.length - suffix.length)))
  else none

def isFixture (file : FoundFile) : Bool :=
  ((file.path.getLast?.bind stem?)).isSome

/-- The category of the file is the folder that it lies in. -/
def category (file : FoundFile) : Category :=
  ("/".intercalate file.path.dropLast).map fun c => if c = '\\' then '/' else c

end FoundFile

namespace FileTree

/-- The fixtures below a folder in the order of their paths. A file by itself has none below it. -/
def fixtures : FileTree → List FoundFile
  | file _ => []
  | folder entries =>
    let found := (filesOfEntries entries).map fun (path, content) => FoundFile.mk path content
    (found.filter FoundFile.isFixture).mergeSort fun left right =>
      (compare left.path right.path).isLE

/-- The fixtures below a folder by their categories, in the order of the categories. -/
def categories (tree : FileTree) : List (Category × List FoundFile) :=
  let byCategory : Std.TreeMap Category (List FoundFile) :=
    tree.fixtures.foldl
      (fun found file => found.insert file.category (found.getD file.category [] ++ [file])) ∅
  byCategory.toList

end FileTree

end FreeOrder
