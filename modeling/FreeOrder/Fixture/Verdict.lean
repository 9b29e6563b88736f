import FreeOrder.Fixture
import FreeOrder.Output
import FreeOrder.Script.Reading
import FreeOrder.Text.Contains

namespace FreeOrder

/-- The ways in which a script can fall short of what its fixture expects. -/
inductive Shortfall
  | invalidVerbs (error : VerbTableError)
  | noSyntaxError
  | syntaxErrors (errors : List SyntaxError)
  | otherError (expected : String) (actual : RuntimeError)
  | noError (expected : String)
  | runtimeError (error : RuntimeError)
  | otherOutput (expected actual : String)
deriving DecidableEq, Repr

def Shortfall.message : Shortfall → String
  | invalidVerbs error => "invalid verbs table: " ++ error.message
  | noSyntaxError => "expected parse error, but parsing succeeded"
  | syntaxErrors errors =>
    "unexpected parse error: " ++ "; ".intercalate (errors.map SyntaxError.description)
  | otherError expected actual =>
    "expected error containing \"" ++ expected ++ "\", got: " ++ actual.message
  | noError expected =>
    "expected error containing \"" ++ expected ++ "\", but execution succeeded"
  | runtimeError error => "unexpected runtime error: " ++ error.message
  | otherOutput expected actual =>
    "output mismatch\n  expected: " ++ expected ++ "\n  actual:   " ++ actual

namespace Fixture

/-- The registry that the script is carried out with. -/
def registry (fixture : Fixture) : Except VerbTableError Registry :=
  match fixture.verbs with
  | none => .ok .standard
  | some table => table.registry

/-- Compares what carrying out the script has led to with what is expected of it. -/
def compare (fixture : Fixture) (result : Except LocatedError Nat) (output : String) :
    Option Shortfall :=
  match fixture.expectedError, result with
  | some expected, .error located =>
    if Text.contains expected.toList located.error.message.toList then none
    else some (.otherError expected located.error)
  | some expected, .ok _ => some (.noError expected)
  | none, .error located => some (.runtimeError located.error)
  | none, .ok _ =>
    match fixture.expectedOutput with
    | none => none
    | some expected =>
      let expected := String.ofList (Text.trim expected.toList)
      let actual := String.ofList (Text.trim output.toList)
      if actual = expected then none else some (.otherOutput expected actual)

/-- Reads and carries out the script. There is no shortfall if it does what is expected of it. -/
def shortfall? (fixture : Fixture) : Option Shortfall :=
  match fixture.registry with
  | .error error => some (.invalidVerbs error)
  | .ok registry =>
    match (Excerpt.ofString fixture.source).readScript with
    | .error errors => if fixture.expectsSyntaxError then none else some (.syntaxErrors errors)
    | .ok script =>
      if fixture.expectsSyntaxError then some .noSyntaxError
      else
        let (result, output) := script.execute registry Handler.text ""
        fixture.compare result output

end Fixture

end FreeOrder
