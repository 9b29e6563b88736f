import FreeOrder.Proofs.ScriptReading

namespace FreeOrder

def Span.shift (bytes : Nat) (span : Span) : Span :=
  ⟨span.start + bytes, span.stop + bytes⟩

def Located.shift {α : Type} (bytes : Nat) (value : Located α) : Located α :=
  { value with span := value.span.shift bytes }

def SyntaxError.shift (bytes : Nat) (error : SyntaxError) : SyntaxError :=
  { error with start := error.start + bytes }

def Statement.shift (bytes : Nat) (statement : Statement) : Statement :=
  { statement with terms := statement.terms.map (.shift bytes), span := statement.span.shift bytes }

def Script.shift (bytes : Nat) (script : Script) : Script :=
  { script with statements := script.statements.map (.shift bytes) }

def Progress.shift (bytes : Nat) : Progress → Progress
  | .finished term => .finished (term.shift bytes)
  | .next term position text => .next (term.shift bytes) (position + bytes) text

def Line.shift (bytes : Nat) (line : Line) : Line :=
  { line with start := line.start + bytes }

def Excerpt.shift (bytes : Nat) (excerpt : Excerpt) : Excerpt :=
  { excerpt with offset := excerpt.offset + bytes }

theorem Span.ofText_shift (start bytes : Nat) (text : List Char) :
    Span.ofText (start + bytes) text = (Span.ofText start text).shift bytes := by
  rw [ofText, ofText, shift, Nat.add_right_comm]

theorem Span.stop_shift_add (bytes count : Nat) (span : Span) :
    (span.shift bytes).stop + count = span.stop + count + bytes :=
  Nat.add_right_comm _ _ _

theorem SyntaxError.span_shift (bytes : Nat) (error : SyntaxError) :
    (error.shift bytes).span = error.span.shift bytes :=
  Span.ofText_shift error.start bytes error.fragment.toList

namespace Term

theorem readOne_shift (source position bytes : Nat) (text : List Char) :
    readOne source (position + bytes) text =
      ((readOne source position text).map (.shift bytes)).mapError (.shift bytes) := by
  unfold readOne
  cases read text with
  | error flaw => rfl
  | ok reading =>
    simp only [Span.ofText_shift, Span.stop_shift_add]
    cases reading.rest.dropWhile isBlank with
    | nil => rfl
    | cons c rest =>
      simp only
      split
      · rfl
      · split <;> rfl

theorem readAll_shift (source position bytes : Nat) (text : List Char) :
    readAll source (position + bytes) text =
      ((readAll source position text).map (List.map (.shift bytes))).mapError (.shift bytes) := by
  -- The step that is taken further on has the same outcome, so both readings go on together.
  have hshift := readOne_shift source position bytes text
  fun_induction readAll source position text with
  | case1 position text error hone =>
    rw [hone] at hshift
    rw [readAll_of_error hshift]
    rfl
  | case2 position text term hone =>
    rw [hone] at hshift
    rw [readAll_of_finished hshift]
    rfl
  | case3 position text term next rest hone ih =>
    rw [hone] at hshift
    rw [readAll_of_next hshift, ih (readOne_shift source next bytes rest)]
    cases readAll source next rest <;> rfl

end Term

theorem Line.ofPieces_shift (number start bytes : Nat) (pieces : List (List Char)) :
    Line.ofPieces number (start + bytes) pieces =
      (Line.ofPieces number start pieces).map (.shift bytes) := by
  induction pieces generalizing number start with
  | nil => rfl
  | cons piece pieces ih =>
    rw [Line.ofPieces, Line.ofPieces, List.map_cons, Nat.add_right_comm, ih]
    rfl

namespace Excerpt

theorem span_shift (bytes : Nat) (excerpt : Excerpt) :
    (excerpt.shift bytes).span = excerpt.span.shift bytes :=
  Span.ofText_shift excerpt.offset bytes excerpt.text

theorem readTerms_shift (bytes : Nat) (excerpt : Excerpt) :
    (excerpt.shift bytes).readTerms =
      (excerpt.readTerms.map (List.map (.shift bytes))).mapError (.shift bytes) := by
  unfold readTerms
  simp only [shift, Nat.add_right_comm _ bytes]
  cases excerpt.text.dropWhile isBlank with
  | nil => rfl
  | cons c rest => exact Term.readAll_shift _ _ _ _

/-- A sentence does not say where its terms stand, so only an error of it moves. -/
theorem readSentence_shift (bytes : Nat) (excerpt : Excerpt) :
    (excerpt.shift bytes).readSentence = excerpt.readSentence.mapError (.shift bytes) := by
  rw [readSentence, readSentence, readTerms_shift]
  cases excerpt.readTerms with
  | error error => rfl
  | ok terms =>
    have hnodes : (terms.map (Located.shift bytes)).map (·.node) = terms.map (·.node) := by
      rw [List.map_map]
      rfl
    exact congrArg (fun nodes => Except.ok (Sentence.ofTerms nodes)) hnodes

end Excerpt

theorem Line.readStatement_shift (bytes source : Nat) (line : Line) :
    (line.shift bytes).readStatement source =
      ((line.readStatement source).map (.shift bytes)).mapError (.shift bytes) := by
  have hexcerpt : (line.shift bytes).excerpt source = (line.excerpt source).shift bytes := rfl
  rw [readStatement_eq, readStatement_eq, hexcerpt, Excerpt.readTerms_shift, Excerpt.span_shift]
  cases (line.excerpt source).readTerms <;> rfl

namespace Excerpt

theorem readStatements_shift (bytes : Nat) (excerpt : Excerpt) :
    (excerpt.shift bytes).readStatements =
      (excerpt.readStatements.map (List.map (.shift bytes))).mapError (List.map (.shift bytes)) := by
  have hlines : (excerpt.shift bytes).lines = excerpt.lines.map (.shift bytes) :=
    Line.ofPieces_shift 1 excerpt.offset bytes (Text.lines excerpt.text)
  rw [readStatements_eq, hlines]
  apply Line.readEach_map
  · intro line _
    rfl
  · intro line _
    exact Line.readStatement_shift bytes excerpt.source line

theorem readScript_shift (bytes : Nat) (excerpt : Excerpt) :
    (excerpt.shift bytes).readScript =
      (excerpt.readScript.map (.shift bytes)).mapError (List.map (.shift bytes)) := by
  rw [readScript, readScript, readStatements_shift]
  cases excerpt.readStatements <;> rfl

end Excerpt

end FreeOrder
