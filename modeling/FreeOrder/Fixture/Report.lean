import FreeOrder.Fixture.Trial

namespace FreeOrder

/-- The trials of some categories, in the order in which they are reported. -/
structure Report where
  groups : List (Category × List Trial)
  inColor : Bool
deriving DecidableEq, Repr

namespace Report

/-- The text in the style that the terminal code stands for. -/
def paint (inColor : Bool) (code text : String) : String :=
  if inColor then "\x1b[" ++ code ++ "m" ++ text ++ "\x1b[0m" else text

def trials (report : Report) : List Trial :=
  report.groups.flatMap (·.2)

def failed (report : Report) : List Trial :=
  report.trials.filter (!·.passed)

def passedCount (report : Report) : Nat :=
  (report.trials.filter (·.passed)).length

/-- The line of a trial under the heading of its category. -/
def trialLine (inColor : Bool) (trial : Trial) : String :=
  let mark := if trial.passed then paint inColor "32" "ok  " else paint inColor "31" "FAIL"
  "  " ++ mark ++ " " ++ trial.name

/-- The heading of a category, and the lines of its trials. -/
def groupLines (inColor : Bool) (group : Category × List Trial) : List String :=
  "" :: paint inColor "1" group.1.label :: group.2.map (trialLine inColor)

def failureLines (trial : Trial) : List String :=
  let reason := (Text.lines (trial.failure?.getD "").toList).map fun line =>
    "    " ++ String.ofList (Text.dropLineFeed line)
  "" :: (trial.path ++ ":") :: reason

def summary (report : Report) : String :=
  let verdict :=
    if report.failed.isEmpty then paint report.inColor "32" "ok"
    else paint report.inColor "31" "FAILED"
  verdict ++ ": " ++ toString report.passedCount ++ " passed, " ++
    toString report.failed.length ++ " failed"

def lines (report : Report) : List String :=
  report.groups.flatMap (groupLines report.inColor) ++ report.failed.flatMap failureLines ++
    ["", report.summary]

end Report

end FreeOrder
