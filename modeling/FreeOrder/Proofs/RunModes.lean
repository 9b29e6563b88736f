import FreeOrder.CommandLine.Outcome
import FreeOrder.Proofs.LineOutput
import FreeOrder.Proofs.ScriptReading

namespace FreeOrder

section Collecting

variable {ε α : Type} {results : List (Except ε α)}

def errorOf? : Except ε α → Option ε
  | .error error => some error
  | .ok _ => none

theorem errors_of_collect_ok {values : List α} (h : collect results = .ok values) :
    results.filterMap errorOf? = [] := by
  rw [eq_map_ok_of_collect h, List.filterMap_map, List.filterMap_eq_nil_iff]
  intro value _
  rfl

theorem errors_of_collect_error {errors : List ε} (h : collect results = .error errors) :
    results.filterMap errorOf? = errors ∧ errors ≠ [] := by
  induction results generalizing errors with
  | nil => cases h
  | cons result results ih =>
    cases result with
    | ok value =>
      rw [collect_cons_ok] at h
      exact ih (map_eq_error_iff.mp h)
    | error error =>
      rw [collect_cons_error] at h
      have hfirst : (.error error :: results).filterMap errorOf? =
          error :: results.filterMap errorOf? := rfl
      cases hrest : collect results with
      | ok values =>
        rw [hrest] at h
        cases h
        exact ⟨by rw [hfirst, errors_of_collect_ok hrest], List.cons_ne_nil _ _⟩
      | error others =>
        rw [hrest] at h
        cases h
        exact ⟨by rw [hfirst, (ih hrest).1]; rfl, List.cons_ne_nil _ _⟩

end Collecting

def Line.fault? (source : Nat) (line : Line) : Option SyntaxError :=
  if line.isSkipped then none else errorOf? (line.excerpt source).readTerms

namespace Excerpt

variable {excerpt : Excerpt}

def faults (excerpt : Excerpt) : List SyntaxError :=
  excerpt.lines.filterMap (·.fault? excerpt.source)

theorem faults_eq (excerpt : Excerpt) : excerpt.faults =
    ((excerpt.lines.filter (!·.isSkipped)).map
      (·.readStatement excerpt.source)).filterMap errorOf? := by
  rw [List.filterMap_map, List.filterMap_filter, faults]
  congr 1
  funext line
  rw [Line.fault?, Function.comp, Line.readStatement_eq]
  cases line.isSkipped <;> cases (line.excerpt excerpt.source).readTerms <;> rfl

theorem faults_of_error {errors : List SyntaxError} (h : excerpt.readScript = .error errors) :
    excerpt.faults = errors ∧ errors ≠ [] := by
  rw [faults_eq]
  exact errors_of_collect_error (map_eq_error_iff.mp h)

theorem faults_of_ok {script : Script} (h : excerpt.readScript = .ok script) :
    excerpt.faults = [] := by
  obtain ⟨statements, hstatements, _⟩ := map_eq_ok_iff.mp h
  rw [faults_eq]
  exact errors_of_collect_ok hstatements

end Excerpt

namespace CommandLine.Outcome

variable {σ : Type} {handler : Handler σ} {start state : σ} {shown : σ → String}
  {files : Files} {path? : Option String} {file text : String} {script : Script}
  {registry : Registry} {errors : List SyntaxError}

/-- Runs the script in a file with a handler, and shows the state that the handler is left in. -/
def ofRunWith (handler : Handler σ) (start : σ) (shown : σ → String) (files : Files)
    (path? : Option String) (file : String) : Outcome :=
  match files.text file with
  | .error reason => failure ["error: cannot read '" ++ file ++ "': " ++ reason.message]
  | .ok text =>
    match (Excerpt.ofString text).readScript with
    | .error errors => failure (errors.map (·.diagnostic.headline))
    | .ok script => withRegistry files path? (ofExecution handler start shown script)

theorem ofRun_eq_ofRunWith (files : Files) (path? : Option String) (file : String) :
    ofRun files path? file false false false = ofRunWith Handler.text "" id files path? file := rfl

theorem ofRun_quiet_eq_ofRunWith (files : Files) (path? : Option String) (file : String) :
    ofRun files path? file false false true =
      ofRunWith Handler.silent () (fun _ => "") files path? file := rfl

def ofResult : Except LocatedError Nat → Outcome
  | .ok _ => {}
  | .error located => failure [located.diagnostic.headline]

theorem ofExecution_eq (handler : Handler σ) (start : σ) (shown : σ → String) (script : Script)
    (registry : Registry) : ofExecution handler start shown script registry =
      { ofResult (script.execute registry handler start).1 with
        output := shown (script.execute registry handler start).2 } := by
  rw [ofExecution]
  obtain ⟨result, state⟩ := script.execute registry handler start
  cases result <;> rfl

theorem ofScript_eq (script : Script) (registry : Registry) : ofScript script registry =
    { ofResult (script.execute registry .text "").1 with
      output := (script.execute registry .text "").2 } :=
  ofExecution_eq _ _ _ _ _

theorem ofScript_exitCode_eq_zero_iff : (ofScript script registry).exitCode = 0 ↔
    ∃ count, (script.execute registry .text "").1 = .ok count := by
  rw [ofScript_eq]
  cases (script.execute registry .text "").1 <;> simp [ofResult, failure]

theorem ofCheck_exitCode_eq_zero_iff : (ofCheck file script registry).exitCode = 0 ↔
    ∃ found, script.check registry = .ok found := by
  rw [ofCheck]
  cases script.check registry <;> simp [failure]

section Stages

variable (htext : files.text file = .ok text)
include htext

theorem ofRun_of_unread (hread : (Excerpt.ofString text).readScript = .error errors)
    (check quiet : Bool) : ofRun files path? file check false quiet =
      failure (errors.map (·.diagnostic.headline)) := by
  simp only [ofRun, htext, hread]

theorem ofRunWith_of_unread (hread : (Excerpt.ofString text).readScript = .error errors) :
    ofRunWith handler start shown files path? file =
      failure (errors.map (·.diagnostic.headline)) := by
  simp only [ofRunWith, htext, hread]

theorem ofRun_of_no_registry (hread : (Excerpt.ofString text).readScript = .ok script)
    {error : RegistryError} (hregistry : files.registry path? = .error error)
    (check quiet : Bool) : ofRun files path? file check false quiet =
      failure ["error: " ++ error.message] := by
  simp [ofRun, htext, hread, withRegistry, hregistry]

theorem ofRun_of_read (hread : (Excerpt.ofString text).readScript = .ok script) :
    ofRun files path? file false false false = withRegistry files path? (ofScript script) := by
  simp only [ofRun, htext, hread]
  rfl

theorem ofRun_of_registry (hread : (Excerpt.ofString text).readScript = .ok script)
    (hregistry : files.registry path? = .ok registry) (check quiet : Bool) :
    ofRun files path? file check false quiet =
      if check then ofCheck file script registry
      else if quiet then ofSilentScript script registry
      else ofScript script registry := by
  simp [ofRun, htext, hread, withRegistry, hregistry]

end Stages

/-- How the outcomes of a script go together when it is run plainly, quietly or only for a check. -/
structure ModesAgree (script : Script) (registry : Registry) (plain quiet check : Outcome) :
    Prop where
  /-- The quiet outcome is the plain one without its output. -/
  quiet_eq : quiet = { plain with output := "" }
  check_output_eq : check.output = ""
  check_exitCode_eq_zero_iff : check.exitCode = 0 ↔
    ∀ statement ∈ script.statements, ∃ invocation,
      registry.resolve statement.nodes = .ok invocation
  exitCode_eq_zero_iff : plain.exitCode = 0 ↔ check.exitCode = 0 ∧
    ∀ statement ∈ script.statements, ∃ argument,
      registry.resolve statement.nodes = .ok ⟨.output, argument⟩
  /-- The check fails at the first statement that does not resolve, with an error that is also that
  of the plain run, after the output of the statements before, if those are all for output. -/
  of_check_failed : check.exitCode ≠ 0 → ∃ statement located,
    script.statements[(script.invocations registry).length]? = some statement ∧
      registry.resolve statement.nodes = .error located.error ∧
      script.check registry = .error located ∧
      check = failure [located.diagnostic.headline] ∧
      (AllOutput (script.invocations registry) →
        script.execute registry .text "" =
          (.error located, transcript (script.invocations registry)) ∧
        plain = { failure [located.diagnostic.headline] with
          output := transcript (script.invocations registry) })
  /-- The plain run stops at the first statement that resolves and is not for output, after the
  output of the statements before. -/
  of_other : ∀ index invocation, FirstOther (script.invocations registry) index invocation →
    ∃ statement located, script.statements[index]? = some statement ∧
      located = statement.locate script.source (.unsupportedAction invocation.action) ∧
      script.execute registry .text "" =
        (.error located, transcript ((script.invocations registry).take index)) ∧
      plain = { failure [located.diagnostic.headline] with
        output := transcript ((script.invocations registry).take index) }

theorem modesAgree (file : String) (script : Script) (registry : Registry) :
    ModesAgree script registry (ofScript script registry) (ofSilentScript script registry)
      (ofCheck file script registry) where
  quiet_eq := by
    have hresult := Script.execute_fst_eq Handler.silent_neverFails Handler.text_neverFails
      script registry () ""
    rw [ofSilentScript, ofExecution_eq, ofScript_eq]
    change { ofResult (script.execute registry (.ofWrite _) ()).1 with output := "" } = _
    rw [hresult]
    rfl
  check_output_eq := by
    rw [ofCheck]
    cases script.check registry <;> rfl
  check_exitCode_eq_zero_iff := by
    rw [ofCheck_exitCode_eq_zero_iff, Script.check_isOk_iff]
    exact Statement.length_resolvedPrefix_eq_iff
  exitCode_eq_zero_iff := by
    have hrun := Script.execute_isOk_iff Handler.text_neverFails script registry ""
    rw [ofScript_exitCode_eq_zero_iff, ofCheck_exitCode_eq_zero_iff, Script.check_isOk_iff]
    refine hrun.trans (iff_and_self.mpr ?_)
    intro hall
    exact (Statement.allOutput_resolvedPrefix_iff.mpr hall).1
  of_check_failed := by
    intro hfailed
    rw [Ne, ofCheck_exitCode_eq_zero_iff, Script.check_isOk_iff] at hfailed
    -- The statement that fails is the one right after all that resolve before it.
    have hlt := Nat.lt_of_le_of_ne (Statement.resolvedPrefix_length_le registry _) hfailed
    obtain ⟨statement, error, hindex, hresolve, hcheck⟩ :=
      Statement.resolveAll_of_length_lt script.source hlt
    have hcheck : script.check registry = .error (statement.locate script.source error) := hcheck
    refine ⟨statement, _, hindex, hresolve, hcheck, by rw [ofCheck, hcheck], ?_⟩
    intro hall
    have hrun := Script.execute_text_of_allOutput hall
    rw [hcheck] at hrun
    refine ⟨hrun, ?_⟩
    rw [ofScript_eq, hrun]
    rfl
  of_other := by
    intro index invocation h
    obtain ⟨statement, hindex, hrun⟩ := Script.execute_text_of_firstOther h
    refine ⟨statement, _, hindex, rfl, hrun, ?_⟩
    rw [ofScript_eq, hrun]
    rfl

/-- The modes of running a script agree. Where lines cannot be read, they all report these, in
their order, whatever the registry and the handler are; where the registry cannot be had, they all
report that. Otherwise they fail alike, but only the plain run writes anything, and only it and the
quiet run refuse what is not for output. -/
theorem run_modes_agree (path? : Option String) (h : files.text file = .ok text) :
    let excerpt := Excerpt.ofString text
    ofRun files path? file false false false = ofRunWith Handler.text "" id files path? file ∧
    ofRun files path? file false false true =
      ofRunWith Handler.silent () (fun _ => "") files path? file ∧
    (excerpt.faults ≠ [] →
      (∀ check quiet, ofRun files path? file check false quiet =
        failure (excerpt.faults.map (·.diagnostic.headline))) ∧
      ∀ (σ : Type) (handler : Handler σ) (start : σ) (shown : σ → String),
        ofRunWith handler start shown files path? file =
          failure (excerpt.faults.map (·.diagnostic.headline))) ∧
    (excerpt.faults = [] → ∃ script, excerpt.readScript = .ok script ∧
      (∀ error, files.registry path? = .error error → ∀ check quiet,
        ofRun files path? file check false quiet = failure ["error: " ++ error.message]) ∧
      ∀ registry, files.registry path? = .ok registry →
        ModesAgree script registry (ofRun files path? file false false false)
          (ofRun files path? file false false true) (ofRun files path? file true false false)) := by
  intro excerpt
  refine ⟨ofRun_eq_ofRunWith files path? file, ofRun_quiet_eq_ofRunWith files path? file, ?_, ?_⟩
  · intro hfaults
    cases hread : excerpt.readScript with
    | ok script => exact (hfaults (Excerpt.faults_of_ok hread)).elim
    | error errors =>
      rw [(Excerpt.faults_of_error hread).1]
      exact ⟨ofRun_of_unread h hread, fun _ _ _ _ => ofRunWith_of_unread h hread⟩
  · intro hfaults
    cases hread : excerpt.readScript with
    | error errors =>
      obtain ⟨herrors, hne⟩ := Excerpt.faults_of_error hread
      exact (hne (herrors ▸ hfaults)).elim
    | ok script =>
      refine ⟨script, rfl, ?_, ?_⟩
      · intro error herror
        exact ofRun_of_no_registry h hread herror
      · intro registry hregistry
        have hrun := ofRun_of_registry h hread hregistry
        rw [hrun, hrun, hrun]
        exact modesAgree file script registry

theorem run_modes_agree_print_yell_quit :
    let verbs := "[verbs]\nprint = 'output'\nquit = 'exit'"
    let files : Files := {
      find := fun path =>
        if path = "bad" then .ok (.file "v(print)\no()\nv(yell)\nv".toUTF8)
        else if path = "yells" then .ok (.file "v(print) o(\"a\")\nv(yell)".toUTF8)
        else if path = "quits" then .ok (.file "v(print) o(\"a\")\nv(quit)".toUTF8)
        else if path = "verbs" then .ok (.file verbs.toUTF8)
        else .error .notFound
      ofRegistry := fun _ => "expected `]`"
      ofFixture := fun _ => "expected `]`" }
    let quits := (Excerpt.ofString "v(print) o(\"a\")\nv(quit)").readScript
    (∀ check quiet, ofRun files none "bad" check false quiet =
      failure ["error: expected a quoted literal", "error: expected `(` after `v`"]) ∧
    (∀ check quiet, ofRun files (some "missing") "yells" check false quiet =
      failure ["error: cannot read 'missing': No such file or directory (os error 2)"]) ∧
    (ofRun files none "yells" false false false =
        { failure ["error: unknown verb: yell"] with output := "a\n" } ∧
      ofRun files none "yells" false false true = failure ["error: unknown verb: yell"] ∧
      (ofRun files none "yells" true false false).exitCode ≠ 0) ∧
    ofRun files (some "verbs") "quits" false false false =
      { failure ["error: unsupported action: exit"] with output := "a\n" } ∧
    ofRun files (some "verbs") "quits" false false true =
      failure ["error: unsupported action: exit"] ∧
    ofRun files (some "verbs") "quits" true false false =
      { messages := ["ok: quits parsed successfully"] } ∧
    ∃ script registry, quits = .ok script ∧ files.registry (some "verbs") = .ok registry ∧
      ∀ statement ∈ script.statements, ∃ invocation,
        registry.resolve statement.nodes = .ok invocation := by
  intro verbs files quits
  have hbad : files.text "bad" = .ok "v(print)\no()\nv(yell)\nv" := by decide +kernel
  have hyells : files.text "yells" = .ok "v(print) o(\"a\")\nv(yell)" := by decide +kernel
  have hquits : files.text "quits" = .ok "v(print) o(\"a\")\nv(quit)" := by decide +kernel
  have hfaults : (Excerpt.ofString "v(print)\no()\nv(yell)\nv").faults =
      [⟨.noQuote, "o()", 9, 0⟩, ⟨.noOpening "v", "v", 21, 0⟩] := by decide +kernel
  have hyells_none : (Excerpt.ofString "v(print) o(\"a\")\nv(yell)").faults = [] := by
    decide +kernel
  have hquits_none : (Excerpt.ofString "v(print) o(\"a\")\nv(quit)").faults = [] := by
    decide +kernel
  obtain ⟨_, _, hunread, _⟩ := run_modes_agree none hbad
  obtain ⟨_, _, _, hmissing⟩ := run_modes_agree (some "missing") hyells
  obtain ⟨_, _, _, hread⟩ := run_modes_agree none hyells
  obtain ⟨_, _, _, hloaded⟩ := run_modes_agree (some "verbs") hquits
  obtain ⟨_, _, hmissing, _⟩ := hmissing hyells_none
  obtain ⟨yells, hyells_read, _, hyells_modes⟩ := hread hyells_none
  obtain ⟨script, hquits_read, _, hquits_modes⟩ := hloaded hquits_none
  have hyells_run : ofRun files none "yells" false false false =
      { failure ["error: unknown verb: yell"] with output := "a\n" } := by decide +kernel
  have hquits_run : ofRun files (some "verbs") "quits" false false false =
      { failure ["error: unsupported action: exit"] with output := "a\n" } := by decide +kernel
  have hquits_check : ofRun files (some "verbs") "quits" true false false =
      { messages := ["ok: quits parsed successfully"] } := by decide +kernel
  refine ⟨?_, hmissing (.unreadable "missing" .notFound) rfl, ⟨hyells_run, ?_, ?_⟩,
    hquits_run, ?_⟩
  · rw [hfaults] at hunread
    exact (hunread (List.cons_ne_nil _ _)).1
  · rw [(hyells_modes .standard rfl).quiet_eq, hyells_run]
    rfl
  · rw [Ne, (hyells_modes .standard rfl).check_exitCode_eq_zero_iff]
    have hread : (Excerpt.ofString "v(print) o(\"a\")\nv(yell)").readScript = .ok ⟨[
        ⟨[⟨.verb "print", ⟨0, 8⟩⟩, ⟨.directObject "\"a\"", ⟨9, 15⟩⟩], ⟨0, 15⟩, 1⟩,
        ⟨[⟨.verb "yell", ⟨16, 23⟩⟩], ⟨16, 23⟩, 2⟩], 0⟩ := by decide +kernel
    have hresolve : Registry.standard.resolve [.verb "yell"] = .error (.unknownVerb "yell") := by
      decide +kernel
    rw [hread] at hyells_read
    cases hyells_read
    intro hall
    obtain ⟨invocation, hok⟩ := hall _ (List.mem_cons_of_mem _ List.mem_cons_self)
    cases hresolve.symm.trans hok
  · have hvalid : (files.registry (some "verbs")).isOk = true := by decide +kernel
    cases hregistry : files.registry (some "verbs") with
    | error error =>
      rw [hregistry] at hvalid
      cases hvalid
    | ok registry =>
      have hmodes := hquits_modes registry hregistry
      refine ⟨?_, hquits_check, script, registry, hquits_read, rfl,
        hmodes.check_exitCode_eq_zero_iff.mp (congrArg exitCode hquits_check)⟩
      rw [hmodes.quiet_eq, hquits_run]
      rfl

end CommandLine.Outcome

end FreeOrder
