import FreeOrder.Invocation
import FreeOrder.Script

namespace FreeOrder

/-- Carries out an action on a state, or fails. Either way it leaves a state. -/
abbrev Handler (σ : Type) :=
  Action → Option String → σ → Except RuntimeError Unit × σ

/-- Resolves the terms of a sentence and carries out what they call for. -/
def Registry.interpret {σ : Type} (registry : Registry) (handler : Handler σ) (terms : List Term)
    (state : σ) : Except RuntimeError Unit × σ :=
  match registry.resolve terms with
  | .error error => (.error error, state)
  | .ok invocation => handler invocation.action invocation.argument state

namespace Statement

/-- The place of the statement that the error is about. -/
def culprit (statement : Statement) : RuntimeError → Span
  | .unknownVerb _ | .unsupportedAction _ => (statement.spanOf? .verb).getD statement.span
  | .duplicateRole role => (statement.spansOf role)[1]?.getD statement.span
  | .missingVerb | .outputFailed _ => statement.span

/-- The error together with its place in the statement. -/
def locate (statement : Statement) (source : Nat) (error : RuntimeError) : LocatedError :=
  ⟨error, statement.culprit error, source⟩

/-- Resolves the statements in order, up to the first that fails. -/
def resolveAll (registry : Registry) (source : Nat) :
    List Statement → Except LocatedError (List Invocation)
  | [] => .ok []
  | statement :: statements =>
    match registry.resolve statement.nodes with
    | .error error => .error (statement.locate source error)
    | .ok invocation => (resolveAll registry source statements).map (invocation :: ·)

/-- Carries out the statements in order, up to the first that fails. -/
def performAll {σ : Type} (registry : Registry) (handler : Handler σ) (source : Nat) :
    List Statement → σ → Except LocatedError Unit × σ
  | [], state => (.ok (), state)
  | statement :: statements, state =>
    match registry.interpret handler statement.nodes state with
    | (.error error, state) => (.error (statement.locate source error), state)
    | (.ok (), state) => performAll registry handler source statements state

end Statement

namespace Script

/-- Resolves every statement of the script, and carries out none. -/
def check (script : Script) (registry : Registry) : Except LocatedError (List Invocation) :=
  Statement.resolveAll registry script.source script.statements

/-- Carries out the script up to the first failure, and counts its statements if there is none. -/
def execute {σ : Type} (script : Script) (registry : Registry) (handler : Handler σ) (state : σ) :
    Except LocatedError Nat × σ :=
  match Statement.performAll registry handler script.source script.statements state with
  | (.error error, state) => (.error error, state)
  | (.ok (), state) => (.ok script.statements.length, state)

end Script

end FreeOrder
