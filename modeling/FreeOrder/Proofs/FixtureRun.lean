import FreeOrder.Proofs.Expectations
import FreeOrder.Proofs.RunModes

namespace FreeOrder

namespace CommandLine.Outcome

def ofSource (registry : Registry) (text : String) : Outcome :=
  match (Excerpt.ofString text).readScript with
  | .error errors => failure (errors.map (·.diagnostic.headline))
  | .ok script => ofScript script registry

theorem ofRun_eq_ofSource {files : Files} {path? : Option String} {file text : String}
    {registry : Registry} (htext : files.text file = .ok text)
    (hregistry : files.registry path? = .ok registry) :
    ofRun files path? file false false false = ofSource registry text := by
  simp only [ofRun, htext, withRegistry, hregistry]
  rfl

end CommandLine.Outcome

namespace Fixture

open CommandLine CommandLine.Outcome

def DeclaresAtMostOne (fixture : Fixture) : Prop :=
  [fixture.expectsSyntaxError, fixture.expectedError.isSome,
    fixture.expectedOutput.isSome].count true ≤ 1

instance (fixture : Fixture) : Decidable fixture.DeclaresAtMostOne :=
  inferInstanceAs (Decidable (_ ≤ _))

/-- The outcome of a run of the script under the registry is what the fixture declares. -/
structure RunsAsDeclared (fixture : Fixture) (registry : Registry) (outcome : Outcome) :
    Prop where
  reportsFaults : fixture.expectsSyntaxError = true →
    (Excerpt.ofString fixture.source).faults ≠ [] ∧
      outcome = failure ((Excerpt.ofString fixture.source).faults.map (·.diagnostic.headline))
  stops : ∀ part, fixture.expectedError = some part → ∃ script located,
    (Excerpt.ofString fixture.source).readScript = .ok script ∧
      (script.execute registry .text "").1 = .error located ∧
      outcome.exitCode = 1 ∧ outcome.messages = [located.diagnostic.headline] ∧
      part.toList <:+: located.error.message.toList
  writes : ∀ text, fixture.expectedOutput = some text → outcome.exitCode = 0 ∧
    (∃ script invocations, (Excerpt.ofString fixture.source).readScript = .ok script ∧
      script.check registry = .ok invocations ∧ outcome.output = transcript invocations) ∧
    Text.trim outcome.output.toList = Text.trim text.toList
  succeeds : fixture.expectsSyntaxError = false → fixture.expectedError = none →
    fixture.expectedOutput = none → outcome.exitCode = 0

variable {fixture : Fixture} {registry : Registry} {part text output : String}
  {result : Except LocatedError Nat}

theorem DeclaresAtMostOne.of_error (h : fixture.DeclaresAtMostOne)
    (hpart : fixture.expectedError = some part) : fixture.expectsSyntaxError = false := by
  rw [DeclaresAtMostOne, hpart] at h
  cases hflag : fixture.expectsSyntaxError with
  | false => rfl
  | true => simp [hflag] at h

theorem DeclaresAtMostOne.of_output (h : fixture.DeclaresAtMostOne)
    (htext : fixture.expectedOutput = some text) :
    fixture.expectsSyntaxError = false ∧ fixture.expectedError = none := by
  rw [DeclaresAtMostOne, htext] at h
  cases hflag : fixture.expectsSyntaxError <;> cases herror : fixture.expectedError <;>
    simp [hflag, herror] at h ⊢

theorem Yields.ofSource_eq (h : fixture.Yields registry result output) :
    ofSource registry fixture.source = { ofResult result with output := output } := by
  obtain ⟨script, hread, hrun⟩ := h
  simp only [ofSource, hread]
  rw [ofScript_eq, hrun]

theorem isUnreadable_iff_ofSource (registry : Registry) : fixture.IsUnreadable ↔
    (Excerpt.ofString fixture.source).faults ≠ [] ∧ ofSource registry fixture.source =
      failure ((Excerpt.ofString fixture.source).faults.map (·.diagnostic.headline)) := by
  apply Iff.intro
  · intro h
    obtain ⟨errors, hread⟩ := h
    obtain ⟨hfaults, hne⟩ := Excerpt.faults_of_error hread
    simp only [ofSource, hread]
    rw [hfaults]
    exact ⟨hne, rfl⟩
  · intro h
    cases hread : (Excerpt.ofString fixture.source).readScript with
    | error errors => exact ⟨errors, hread⟩
    | ok script => exact (h.1 (Excerpt.faults_of_ok hread)).elim

theorem failsWith_iff_ofSource : fixture.FailsWith registry part ↔ ∃ script located,
    (Excerpt.ofString fixture.source).readScript = .ok script ∧
      (script.execute registry .text "").1 = .error located ∧
      (ofSource registry fixture.source).exitCode = 1 ∧
      (ofSource registry fixture.source).messages = [located.diagnostic.headline] ∧
      part.toList <:+: located.error.message.toList := by
  apply Iff.intro
  · intro h
    obtain ⟨located, output, hyields, hpart⟩ := h
    rw [hyields.ofSource_eq]
    obtain ⟨script, hread, hrun⟩ := hyields
    exact ⟨script, located, hread, congrArg Prod.fst hrun, rfl, rfl, hpart⟩
  · intro h
    obtain ⟨script, located, hread, hrun, _, _, hpart⟩ := h
    exact ⟨located, _, ⟨script, hread, Prod.ext hrun rfl⟩, hpart⟩

theorem succeeds_iff_ofSource :
    fixture.Succeeds registry ↔ (ofSource registry fixture.source).exitCode = 0 := by
  rcases isUnreadable_or_yields fixture registry with h | ⟨result, output, h⟩
  · rw [((isUnreadable_iff_ofSource registry).mp h).2]
    refine iff_of_false ?_ Nat.one_ne_zero
    intro hsucceeds
    obtain ⟨_, _, hyields⟩ := hsucceeds
    exact h.not_yields hyields
  · rw [h.succeeds_iff, h.ofSource_eq]
    cases result <;> simp [ofResult, Outcome.failure]

theorem Succeeds.ofSource_output (h : fixture.Succeeds registry) :
    (ofSource registry fixture.source).output = fixture.written registry ∧
      ∃ script invocations, (Excerpt.ofString fixture.source).readScript = .ok script ∧
        script.check registry = .ok invocations ∧
        (ofSource registry fixture.source).output = transcript invocations := by
  obtain ⟨count, output, hyields⟩ := h
  rw [hyields.ofSource_eq, hyields.written_eq]
  obtain ⟨script, hread, hrun⟩ := hyields
  obtain ⟨invocations, hcheck, houtput⟩ := Script.execute_text_of_ok (congrArg Prod.fst hrun)
  rw [hrun] at houtput
  exact ⟨rfl, script, invocations, hread, hcheck, houtput⟩

/-- What is declared first is all that is declared, and so what a run has to lead to. -/
theorem meetsFirst_iff_runsAsDeclared (hone : fixture.DeclaresAtMostOne) :
    fixture.MeetsFirst registry ↔
      fixture.RunsAsDeclared registry (ofSource registry fixture.source) := by
  apply Iff.intro
  · intro h
    constructor
    · intro hflag
      exact (isUnreadable_iff_ofSource registry).mp (h.unreadable hflag)
    · intro part hpart
      exact failsWith_iff_ofSource.mp (h.fails (hone.of_error hpart) part hpart)
    · intro text htext
      obtain ⟨hflag, herror⟩ := hone.of_output htext
      obtain ⟨hsucceeds, hwrites⟩ := h.succeeds hflag herror
      obtain ⟨houtput, hlines⟩ := hsucceeds.ofSource_output
      refine ⟨succeeds_iff_ofSource.mp hsucceeds, hlines, ?_⟩
      rw [houtput]
      exact hwrites text htext
    · intro hflag herror _
      exact succeeds_iff_ofSource.mp (h.succeeds hflag herror).1
  · intro h
    constructor
    · intro hflag
      exact (isUnreadable_iff_ofSource registry).mpr (h.reportsFaults hflag)
    · intro _ part hpart
      exact failsWith_iff_ofSource.mpr (h.stops part hpart)
    · intro hflag herror
      -- A run that is declared to write something also has to end well.
      have hsucceeds : fixture.Succeeds registry := by
        rw [succeeds_iff_ofSource]
        cases htext : fixture.expectedOutput with
        | none => exact h.succeeds hflag herror htext
        | some text => exact (h.writes text htext).1
      refine ⟨hsucceeds, ?_⟩
      intro text htext
      rw [Writes, ← hsucceeds.ofSource_output.1]
      exact (h.writes text htext).2.2

/-- A fixture that declares at most one thing passes exactly when it provides a registry, and
running its script under that registry has the outcome that it declares, as it has for every file
that holds the script. -/
theorem passes_iff_runsAsDeclared (hone : fixture.DeclaresAtMostOne) :
    (fixture.shortfall? = none ↔ ∃ registry, fixture.Provides registry ∧
      fixture.RunsAsDeclared registry (ofSource registry fixture.source)) ∧
    ∀ (files : Files) (path? : Option String) (file : String) (registry : Registry),
      files.text file = .ok fixture.source → files.registry path? = .ok registry →
        ofRun files path? file false false false = ofSource registry fixture.source := by
  apply And.intro
  · rw [passes_iff]
    exact exists_congr fun registry => and_congr_right fun _ =>
      meetsFirst_iff_runsAsDeclared hone
  · intro files path? file registry hsource hregistry
    exact ofRun_eq_ofSource hsource hregistry

theorem passes_iff_runsAsDeclared_say :
    let verbs := "[verbs]\nsay = \"output\""
    let fixture : Fixture := {
      verbs := VerbTable.ofToml? verbs
      expectedOutput := some "é"
      source := "o(\" é\") v(say)\nv(say)" }
    let files : Files := {
      find := fun path => .ok (.file (if path = "verbs" then verbs else fixture.source).toUTF8)
      ofRegistry := fun _ => "expected `]`"
      ofFixture := fun _ => "expected `]`" }
    fixture.DeclaresAtMostOne ∧ fixture.verbs.isSome ∧ fixture.shortfall? = none ∧
      ∃ registry, fixture.Provides registry ∧ fixture.RunsAsDeclared registry
        (ofRun files (some "verbs") "script" false false false) := by
  intro verbs fixture files
  have hone : fixture.DeclaresAtMostOne := by decide +kernel
  have hsome : fixture.verbs.isSome := by decide +kernel
  have hpasses : fixture.shortfall? = none := by decide +kernel
  have hsource : files.text "script" = .ok fixture.source := by decide +kernel
  have htext : files.text "verbs" = .ok verbs := by decide +kernel
  obtain ⟨hiff, hruns⟩ := passes_iff_runsAsDeclared hone
  obtain ⟨registry, hprovides, hdeclared⟩ := hiff.mp hpasses
  refine ⟨hone, hsome, hpasses, registry, hprovides, ?_⟩
  have hregistry : files.registry (some "verbs") = .ok registry := by
    cases hprovides with
    | standard hnone =>
      rw [hnone] at hsome
      cases hsome
    | ofTable htable hvalid =>
      change VerbTable.ofToml? verbs = some _ at htable
      simp only [Files.registry, htext, htable, hvalid]
  rw [hruns files (some "verbs") "script" registry hsource hregistry]
  exact hdeclared

end Fixture

end FreeOrder
