import FreeOrder.RuntimeError
import FreeOrder.Sentence

namespace FreeOrder

/-- The text without one quote at its beginning and then one at its end, where there are any. -/
def unquote (literal : String) : String :=
  let inner :=
    match literal.toList with
    | '"' :: rest => rest
    | text => text
  match inner.reverse with
  | '"' :: rest => String.ofList rest.reverse
  | _ => String.ofList inner

/-- What a term means by itself. -/
inductive Meaning
  | action (action : Action)
  | argument (text : String)
deriving DecidableEq, Repr

namespace Registry

def action (registry : Registry) (verb : String) : Except RuntimeError Action :=
  match registry.action? verb with
  | some action => .ok action
  | none => .error (.unknownVerb verb)

/-- The meaning of a term: a verb stands for its action, an object for the text in its quotes. -/
def meaning (registry : Registry) : Term → Except RuntimeError Meaning
  | .verb name => (registry.action name).map .action
  | .directObject literal => .ok (.argument (unquote literal))

end Registry

/-- The terms of a sentence by their roles. -/
structure Roles where
  verb : Option String := none
  directObject : Option String := none
deriving DecidableEq, Repr

namespace Roles

/-- Puts the term into the place of its role, which has to be free. -/
def add (roles : Roles) : Term → Except RuntimeError Roles
  | .verb name =>
    match roles.verb with
    | none => .ok { roles with verb := some name }
    | some _ => .error (.duplicateRole .verb)
  | .directObject literal =>
    match roles.directObject with
    | none => .ok { roles with directObject := some literal }
    | some _ => .error (.duplicateRole .directObject)

def addAll (roles : Roles) : List Term → Except RuntimeError Roles
  | [] => .ok roles
  | term :: terms =>
    match roles.add term with
    | .ok roles => roles.addAll terms
    | .error error => .error error

end Roles

/-- An action to carry out, and the text to do it with. -/
structure Invocation where
  action : Action
  argument : Option String
deriving DecidableEq, Repr

/-- The invocation that the terms of a sentence call for. -/
def Registry.resolve (registry : Registry) (terms : List Term) : Except RuntimeError Invocation :=
  match Roles.addAll {} terms with
  | .error error => .error error
  | .ok roles =>
    match roles.verb with
    | none => .error .missingVerb
    | some name =>
      (registry.action name).map fun action => ⟨action, roles.directObject.map unquote⟩

end FreeOrder
