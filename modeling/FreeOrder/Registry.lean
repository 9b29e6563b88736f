import Std.Data.TreeMap

namespace FreeOrder

/-- The name of something that a host can do. -/
structure Action where
  name : String
deriving DecidableEq, Repr

def Action.output : Action := ⟨"output"⟩

/-- The verbs that sentences may use, each with the action that it stands for. -/
structure Registry where
  verbs : Std.TreeMap String Action

namespace Registry

/-- The registry of the entries. Of two entries for one verb the later one counts. -/
def ofList (entries : List (String × Action)) : Registry :=
  ⟨entries.foldl (fun verbs entry => verbs.insert entry.1 entry.2) ∅⟩

/-- The registry that is used when none is given. -/
def standard : Registry :=
  ofList [("print", .output)]

def action? (registry : Registry) (verb : String) : Option Action :=
  registry.verbs[verb]?

def contains (registry : Registry) (verb : String) : Bool :=
  registry.verbs.contains verb

/-- The entries in the order of their verbs. -/
def toList (registry : Registry) : List (String × Action) :=
  registry.verbs.toList

def size (registry : Registry) : Nat :=
  registry.verbs.size

def isEmpty (registry : Registry) : Bool :=
  registry.verbs.isEmpty

instance : BEq Registry where
  beq left right := left.toList == right.toList

end Registry

end FreeOrder
