import FreeOrder.Proofs.RunModes
import FreeOrder.Proofs.TrailingBlanks

namespace FreeOrder

def Registry.interpretAll {σ : Type} (registry : Registry) (handler : Handler σ) :
    List (List Term) → σ → Except RuntimeError Unit × σ
  | [], state => (.ok (), state)
  | terms :: sentences, state =>
    match registry.interpret handler terms state with
    | (.error error, state) => (.error error, state)
    | (.ok (), state) => registry.interpretAll handler sentences state

/-- Apart from the places of errors, only the terms of the statements matter. -/
theorem Statement.interpretAll_nodes {σ : Type} (registry : Registry) (handler : Handler σ)
    (source : Nat) (statements : List Statement) (state : σ) :
    registry.interpretAll handler (statements.map nodes) state =
      ((performAll registry handler source statements state).1.mapError (·.error),
        (performAll registry handler source statements state).2) := by
  induction statements generalizing state with
  | nil => rfl
  | cons statement statements ih =>
    simp only [List.map_cons, Registry.interpretAll, performAll]
    obtain ⟨result, next⟩ := registry.interpret handler statement.nodes state
    cases result with
    | error error => rfl
    | ok _ => exact ih next

namespace CommandLine.Outcome

theorem ofExecution_eq_interpretAll {σ : Type} (handler : Handler σ) (start : σ)
    (shown : σ → String) (script : Script) (registry : Registry) :
    ofExecution handler start shown script registry =
      match registry.interpretAll handler (script.statements.map Statement.nodes) start with
      | (.ok (), state) => { output := shown state }
      | (.error error, state) =>
        { failure ["error: " ++ error.message] with output := shown state } := by
  rw [Statement.interpretAll_nodes registry handler script.source, ofExecution, Script.execute]
  obtain ⟨result, state⟩ :=
    Statement.performAll registry handler script.source script.statements start
  cases result <;> rfl

end CommandLine.Outcome

namespace Text

variable {line : List Char}

/-- The first character that is not blank is not part of the line end. -/
theorem exists_trimStart_dropLineEnd (h : ¬ IsBlank line) :
    ∃ c rest, trimStart (dropLineEnd line) = c :: rest ∧ (trimStart line).head? = some c := by
  obtain ⟨lineEnd, hblank, hsplit⟩ := exists_line_end line
  cases hfront : trimStart (dropLineEnd line) with
  | nil =>
    refine (h ?_).elim
    rw [hsplit]
    exact List.forall_mem_append.mpr ⟨trimStart_eq_nil_iff.mp hfront, hblank⟩
  | cons c rest =>
    refine ⟨c, rest, rfl, ?_⟩
    rw [hsplit, trimStart, dropWhile_append_of_cons hfront]
    rfl

end Text

namespace Excerpt

variable {excerpt : Excerpt}

def withoutLineEnd (excerpt : Excerpt) : Excerpt :=
  { excerpt with text := Text.dropLineEnd excerpt.text }

theorem readTerms_withoutLineEnd (excerpt : Excerpt) :
    excerpt.withoutLineEnd.readTerms.mapError (·.fault) =
      excerpt.readTerms.mapError (·.fault) := by
  obtain ⟨lineEnd, hblank, hsplit⟩ := Text.exists_line_end excerpt.text
  have hread := readTerms_append_blank hblank (Text.dropLineEnd excerpt.text) excerpt.source
    excerpt.offset
  rw [← hsplit] at hread
  exact hread.symm

/-- A single line is read as the only sentence of a script, without its line end. -/
theorem readScript_of_not_mem (hline : '\n' ∉ excerpt.text) (hblank : ¬ Text.IsBlank excerpt.text)
    (hcomment : (Text.trimStart excerpt.text).head? ≠ some '#') :
    excerpt.readScript = (excerpt.withoutLineEnd.readTerms.map fun terms =>
      ⟨[⟨terms, excerpt.withoutLineEnd.span, 1⟩], excerpt.source⟩).mapError ([·]) := by
  have hne : excerpt.text ≠ [] := by
    intro hnil
    rw [hnil] at hblank
    exact hblank (List.forall_mem_nil _)
  obtain ⟨c, rest, hfront, hhead⟩ := Text.exists_trimStart_dropLineEnd hblank
  have hc : c ≠ '#' := by
    rintro rfl
    exact hcomment hhead
  let line : Line := ⟨1, excerpt.offset, Text.dropLineEnd excerpt.text⟩
  have hskipped : line.isSkipped = false := by
    simp [line, Line.isSkipped, hfront, hc]
  have hlines : excerpt.lines = [line] := by
    rw [lines, Text.lines_of_not_mem hline hne, Line.ofPieces, Line.ofPieces]
  rw [readScript, readStatements, hlines, List.filter_cons_of_pos (by simp [hskipped])]
  change (collect [excerpt.withoutLineEnd.readTerms.map _]).map _ = _
  cases excerpt.withoutLineEnd.readTerms <;> rfl

end Excerpt

namespace CommandLine.Outcome

variable {files : Files} {file sentence : String}

theorem ofScript_congr {script script' : Script}
    (h : script.statements.map Statement.nodes = script'.statements.map Statement.nodes) :
    ofScript script = ofScript script' := by
  funext registry
  rw [ofScript, ofScript, ofExecution_eq_interpretAll, ofExecution_eq_interpretAll, h]

/-- A sentence that is given by itself has the same outcome as a file that holds it as its only
line, with or without an end of the line. -/
theorem ofEval_eq_ofRun (path? : Option String) (hfile : files.text file = .ok sentence)
    (hline : '\n' ∉ sentence.toList) (hblank : ¬ Text.IsBlank sentence.toList)
    (hcomment : (Text.trimStart sentence.toList).head? ≠ some '#') :
    ofEval files path? sentence false = ofRun files path? file false false false := by
  have hread := (Excerpt.ofString sentence).readTerms_withoutLineEnd
  have hscript : (Excerpt.ofString sentence).readScript = _ :=
    Excerpt.readScript_of_not_mem hline hblank hcomment
  cases hterms : (Excerpt.ofString sentence).withoutLineEnd.readTerms with
  | error error =>
    rw [hterms] at hread hscript
    obtain ⟨other, hother, hfault⟩ := mapError_eq_error_iff.mp hread.symm
    have hheadline : other.diagnostic.headline = error.diagnostic.headline :=
      congrArg (fun fault => "error: " ++ SyntaxFault.message fault) hfault
    rw [ofRun_of_unread hfile hscript]
    simp only [ofEval, hother, hheadline]
    rfl
  | ok terms =>
    rw [hterms] at hread hscript
    have hterms' := mapError_eq_ok_iff.mp hread.symm
    rw [ofRun_of_read hfile hscript]
    simp only [ofEval, hterms']
    -- The statements differ in their places, since only one of them includes the line end.
    exact congrArg (withRegistry files path?) (ofScript_congr rfl)

theorem ofEval_eq_ofRun_carriage_return :
    let files : Files := {
      find := fun path =>
        if path = "good" then .ok (.file "v(print) o(\"é\")\r\r".toUTF8)
        else .ok (.file " o(\"é) v(print)\r".toUTF8)
      ofRegistry := fun _ => "expected `]`"
      ofFixture := fun _ => "expected `]`" }
    ofEval files none "v(print) o(\"é\")\r\r" false = ofRun files none "good" false false false ∧
    ofEval files none "v(print) o(\"é\")\r\r" false = { output := "é\n" } ∧
    ofEval files none " o(\"é) v(print)\r" false = ofRun files none "bad" false false false ∧
    ofEval files none " o(\"é) v(print)\r" false =
      failure ["error: unterminated string literal"] := by
  intro files
  have hgood : files.text "good" = .ok "v(print) o(\"é\")\r\r" := by decide +kernel
  have hbad : files.text "bad" = .ok " o(\"é) v(print)\r" := by decide +kernel
  refine ⟨?_, by decide +kernel, ?_, by decide +kernel⟩
  · exact ofEval_eq_ofRun none hgood (by decide) (by decide) (by decide)
  · exact ofEval_eq_ofRun none hbad (by decide) (by decide) (by decide)

end CommandLine.Outcome

end FreeOrder
