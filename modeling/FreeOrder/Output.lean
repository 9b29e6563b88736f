import FreeOrder.Execution

namespace FreeOrder

/-- How an output that is full turns down more bytes: with an error of its own, or by taking none of
them. -/
inductive Refusal
  | error (reason : String)
  | noProgress
deriving DecidableEq, Repr

def Refusal.reason : Refusal → String
  | error reason => reason
  | noProgress => "failed to write whole buffer"

/-- The bytes written so far, to a place that may take only so many of them. -/
structure Output where
  written : List UInt8 := []
  capacity : Option Nat := none
  refusal : Refusal := .noProgress
deriving DecidableEq, Repr

namespace Output

/-- Writes as many of the bytes as fit, and fails if that is not all of them. -/
def write (bytes : List UInt8) (output : Output) : Except RuntimeError Unit × Output :=
  match output.capacity with
  | none => (.ok (), { output with written := output.written ++ bytes })
  | some capacity =>
    let accepted := bytes.take (capacity - output.written.length)
    let result : Except RuntimeError Unit :=
      if accepted.length = bytes.length then .ok ()
      else .error (.outputFailed output.refusal.reason)
    (result, { output with written := output.written ++ accepted })

end Output

namespace Handler

/-- Writes the argument as a line for the output action, and supports no other action. -/
def ofWrite {σ : Type} (write : String → σ → Except RuntimeError Unit × σ) : Handler σ :=
  fun action argument state =>
    if action = .output then write (argument.getD "" ++ "\n") state
    else (.error (.unsupportedAction action), state)

def text : Handler String :=
  ofWrite fun line text => (.ok (), text ++ line)

def silent : Handler Unit :=
  ofWrite fun _ state => (.ok (), state)

def output : Handler Output :=
  ofWrite fun line => Output.write line.toUTF8.data.toList

/-- Keeps a record of what it is asked to do, and then refuses the given actions. -/
def recording (refused : List Action) : Handler (List Invocation) :=
  fun action argument invocations =>
    let result : Except RuntimeError Unit :=
      if action ∈ refused then .error (.unsupportedAction action) else .ok ()
    (result, invocations ++ [⟨action, argument⟩])

end Handler

end FreeOrder
