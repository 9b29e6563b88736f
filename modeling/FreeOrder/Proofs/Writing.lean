import FreeOrder.Proofs.ScriptReading

namespace FreeOrder

def writeLine (terms : List Term) : List Char :=
  [' '].intercalate (terms.map (·.spelling.toList))

def writeLines (sentences : List (List Term)) : List Char :=
  ['\n'].intercalate (sentences.map writeLine)

def Script.written (script : Script) : List Char :=
  writeLines (script.statements.map Statement.nodes)

/-- A text of the terms in full notation, with some blanks between them. -/
inductive Spread : List Term → List Char → Prop
  | last (term : Term) : Spread [term] term.spelling.toList
  | cons (term : Term) {terms : List Term} {gap text : List Char} (hgap : Text.IsBlank gap)
      (hne : gap ≠ []) (hterms : Spread terms text) :
      Spread (term :: terms) (term.spelling.toList ++ (gap ++ text))

structure FitLine (terms : List Term) : Prop where
  ne_nil : terms ≠ []
  writable : ∀ term ∈ terms, term.IsWritable
  not_mem : ∀ term ∈ terms, '\n' ∉ term.text.toList

theorem not_mem_intercalate {α : Type} {a : α} {sep : List α} {parts : List (List α)}
    (hsep : a ∉ sep) (hparts : ∀ part ∈ parts, a ∉ part) : a ∉ sep.intercalate parts := by
  induction parts with
  | nil => exact List.not_mem_nil
  | cons part parts ih =>
    have hpart := hparts part List.mem_cons_self
    have hrest := ih fun other hmem => hparts other (List.mem_cons_of_mem _ hmem)
    cases parts with
    | nil =>
      rw [List.intercalate_singleton]
      exact hpart
    | cons next parts =>
      rw [List.intercalate_cons_cons, List.mem_append, List.mem_append, not_or, not_or]
      exact ⟨⟨hpart, hsep⟩, hrest⟩

theorem Word.text_full (term : Term) (h : term.IsWritable) :
    (Word.mk term false h).text = term.spelling.toList := by
  simp [Word.text, Term.spelling, Role.written]

namespace Spread

variable {terms : List Term} {text gap : List Char}

theorem intercalate (hgap : Text.IsBlank gap) (hne : gap ≠ []) (h : terms ≠ []) :
    Spread terms (gap.intercalate (terms.map (·.spelling.toList))) := by
  induction terms with
  | nil => exact (h rfl).elim
  | cons term terms ih =>
    cases terms with
    | nil =>
      rw [List.map_singleton, List.intercalate_singleton]
      exact .last term
    | cons next terms =>
      rw [List.map_cons, List.map_cons, List.intercalate_cons_cons, List.append_assoc]
      exact .cons term hgap hne (ih (List.cons_ne_nil next terms))

theorem exists_words (h : Spread terms text) (hwritable : ∀ term ∈ terms, term.IsWritable) :
    ∃ words, IsSpaced words ∧ spell words = text ∧ words.map (·.1.term) = terms := by
  induction h with
  | last term =>
    have hterm := hwritable term List.mem_cons_self
    refine ⟨[(⟨term, false, hterm⟩, [])], .last (List.forall_mem_nil _), ?_, rfl⟩
    rw [spell_cons, Word.text_full, spell_nil, List.append_nil, List.append_nil]
  | cons term hgap hne _ ih =>
    have hterm := hwritable term List.mem_cons_self
    obtain ⟨words, hspaced, hspell, hwords⟩ :=
      ih fun other hmem => hwritable other (List.mem_cons_of_mem _ hmem)
    refine ⟨(⟨term, false, hterm⟩, _) :: words, .cons hgap hne hspaced, ?_, ?_⟩
    · rw [spell_cons, Word.text_full, hspell]
    · rw [List.map_cons, hwords]

theorem exists_layout (h : Spread terms text) (hwritable : ∀ term ∈ terms, term.IsWritable) :
    ∃ layout : Layout, layout.text = text ∧ layout.words.map (·.1.term) = terms := by
  obtain ⟨words, hspaced, hspell, hwords⟩ := h.exists_words hwritable
  exact ⟨⟨[], words, List.forall_mem_nil _, hspaced⟩, hspell, hwords⟩

theorem exists_concat (h : Spread terms text) : ∃ front, text = front ++ [')'] := by
  induction h with
  | last term => exact ⟨_, by rw [Term.spelling, String.toList_append]; rfl⟩
  | cons term _ _ _ ih =>
    obtain ⟨front, rfl⟩ := ih
    exact ⟨_, by rw [← List.append_assoc, ← List.append_assoc]⟩

/-- The first character is that of a marker in full, and so starts no comment. -/
theorem exists_cons (h : Spread terms text) :
    ∃ c rest, text = c :: rest ∧ isBlank c = false ∧ c ≠ '#' := by
  have hterm (term : Term) : ∃ c rest, term.spelling.toList = c :: rest ∧ isBlank c = false ∧
      c ≠ '#' := by
    cases term <;> simp [Term.spelling, Term.role, Role.marker] <;> decide
  cases h with
  | last term => exact hterm term
  | cons term _ _ _ =>
    obtain ⟨c, rest, he, hc⟩ := hterm term
    exact ⟨c, _, by rw [he]; rfl, hc⟩

end Spread

namespace FitLine

variable {terms : List Term} {source number start : Nat}

theorem spread (h : FitLine terms) : Spread terms (writeLine terms) := by
  have hgap : Text.IsBlank [' '] := List.forall_mem_singleton.mpr rfl
  exact .intercalate hgap (List.cons_ne_nil _ _) h.ne_nil

theorem not_mem_writeLine (h : FitLine terms) : '\n' ∉ writeLine terms := by
  apply not_mem_intercalate (by decide)
  intro part hpart
  obtain ⟨term, hterm, rfl⟩ := List.mem_map.mp hpart
  have htext := h.not_mem term hterm
  cases term <;> simpa [Term.spelling, Term.role, Role.marker, Term.text] using htext

theorem dropLineEnd_writeLine (h : FitLine terms) :
    Text.dropLineEnd (writeLine terms) = writeLine terms := by
  obtain ⟨front, hfront⟩ := h.spread.exists_concat
  rw [hfront]
  exact Text.dropLineEnd_concat (by decide) (by decide)

theorem isSkipped_writeLine (h : FitLine terms) :
    Line.isSkipped ⟨number, start, writeLine terms⟩ = false := by
  obtain ⟨c, rest, htext, hblank, hc⟩ := h.spread.exists_cons
  simp [Line.isSkipped, Text.trimStart, htext, hblank, hc]

theorem readStatement_writeLine (h : FitLine terms) (source number start : Nat) : ∃ statement,
    Line.readStatement source ⟨number, start, writeLine terms⟩ = .ok statement ∧
      statement.nodes = terms ∧ statement.line = number := by
  obtain ⟨layout, htext, hwords⟩ := h.spread.exists_layout h.writable
  have hline : layout.text = (Line.excerpt ⟨number, start, writeLine terms⟩ source).text := htext
  have hread := Excerpt.readTerms_layout hline
  exact ⟨_, map_eq_ok_iff.mpr ⟨_, hread, rfl⟩, (placed_nodes _ _).trans hwords, rfl⟩

theorem exists_lines_cons (h : FitLine terms) (sentences : List (List Term)) (number start : Nat) :
    ∃ next, Line.ofPieces number start (Text.lines (writeLines (terms :: sentences))) =
      ⟨number, start, writeLine terms⟩ ::
        Line.ofPieces (number + 1) next (Text.lines (writeLines sentences)) := by
  -- Only the last line has no line feed after it.
  cases sentences with
  | nil =>
    have hne : writeLine terms ≠ [] := by
      obtain ⟨c, rest, he, _⟩ := h.spread.exists_cons
      rw [he]
      exact List.cons_ne_nil c rest
    refine ⟨0, ?_⟩
    rw [writeLines, List.map_singleton, List.intercalate_singleton,
      Text.lines_of_not_mem h.not_mem_writeLine hne, Line.ofPieces, h.dropLineEnd_writeLine]
    rfl
  | cons terms' sentences =>
    refine ⟨start + Text.byteLength (writeLine terms ++ ['\n']), ?_⟩
    rw [writeLines, List.map_cons, List.map_cons, List.intercalate_cons_cons, List.append_assoc,
      List.singleton_append, Text.lines_cons_line h.not_mem_writeLine, Line.ofPieces,
      Text.dropLineEnd_line_feed, h.dropLineEnd_writeLine]
    rfl

end FitLine

theorem mem_text_of_mem_words {layout : Layout} {word : Word} {gap : List Char}
    (h : (word, gap) ∈ layout.words) {c : Char} (hc : c ∈ word.term.text.toList) :
    c ∈ layout.text := by
  apply List.mem_append_right
  exact List.mem_flatMap.mpr ⟨(word, gap), h, List.mem_append_left _ (Word.mem_text_of_mem hc)⟩

theorem writable_of_mem_words {words : List (Word × List Char)} {term : Term}
    (h : term ∈ words.map (·.1.term)) : term.IsWritable := by
  obtain ⟨pair, _, rfl⟩ := List.mem_map.mp h
  exact pair.1.writable

theorem fitLine_words (layout : Layout) (h : '\n' ∉ layout.text) :
    FitLine (layout.words.map (·.1.term)) where
  ne_nil := by
    intro hnil
    apply layout.spaced.spell_ne_nil
    rw [List.map_eq_nil_iff.mp hnil, spell_nil]
  writable := by
    intro term hterm
    exact writable_of_mem_words hterm
  not_mem := by
    intro term hterm hmem
    obtain ⟨pair, hpair, rfl⟩ := List.mem_map.mp hterm
    exact h (mem_text_of_mem_words hpair hmem)

theorem fitLine_nodes {excerpt : Excerpt} {script : Script} {statement : Statement}
    (h : excerpt.readScript = .ok script) (hmem : statement ∈ script.statements) :
    FitLine statement.nodes := by
  obtain ⟨line, hline, hread, _⟩ := Excerpt.exists_line_of_mem h hmem
  obtain ⟨layout, htext, hterms⟩ := Excerpt.readTerms_sound hread
  have hnodes : statement.nodes = layout.words.map (·.1.term) := by
    rw [Statement.nodes, hterms]
    exact placed_nodes _ _
  rw [hnodes]
  apply fitLine_words
  rw [htext]
  exact Excerpt.not_mem_of_mem_lines hline

/-- Written lines are read as the sentences that they were written for, and counted. -/
theorem readEach_writeLines {sentences : List (List Term)}
    (h : ∀ terms ∈ sentences, FitLine terms) (source number start : Nat) : ∃ statements,
      Line.readEach source (Line.ofPieces number start (Text.lines (writeLines sentences))) =
        .ok statements ∧
      statements.map Statement.nodes = sentences ∧
      statements.map Statement.line = List.range' number sentences.length := by
  induction sentences generalizing number start with
  | nil => exact ⟨[], rfl, rfl, rfl⟩
  | cons terms sentences ih =>
    have hterms := h terms List.mem_cons_self
    obtain ⟨next, hlines⟩ := hterms.exists_lines_cons sentences number start
    obtain ⟨statement, hread, hnodes, hline⟩ :=
      hterms.readStatement_writeLine source number start
    obtain ⟨statements, hrest, hsentences, hnumbers⟩ :=
      ih (fun other hmem => h other (List.mem_cons_of_mem _ hmem)) (number + 1) next
    refine ⟨statement :: statements, ?_, ?_, ?_⟩
    · rw [hlines, Line.readEach_cons hterms.isSkipped_writeLine hread, hrest]
      rfl
    · rw [List.map_cons, hnodes, hsentences]
    · rw [List.map_cons, hline, hnumbers]
      rfl

namespace Excerpt

theorem readScript_written {excerpt : Excerpt} {script : Script}
    (h : excerpt.readScript = .ok script) (source offset : Nat) : ∃ again,
      readScript ⟨script.written, source, offset⟩ = .ok again ∧
        again.statements.map Statement.nodes = script.statements.map Statement.nodes ∧
        again.statements.map Statement.line = List.range' 1 script.statements.length := by
  have hfit : ∀ terms ∈ script.statements.map Statement.nodes, FitLine terms := by
    intro terms hterms
    obtain ⟨statement, hstatement, rfl⟩ := List.mem_map.mp hterms
    exact fitLine_nodes h hstatement
  obtain ⟨statements, hread, hnodes, hlines⟩ := readEach_writeLines hfit source 1 offset
  refine ⟨⟨statements, source⟩, map_eq_ok_iff.mpr ⟨statements, hread, rfl⟩, hnodes, ?_⟩
  rw [hlines, List.length_map]

theorem readSentence_spread {excerpt : Excerpt} {sentence : Sentence}
    (h : excerpt.readSentence = .ok sentence) {text : List Char}
    (htext : Spread sentence.terms text) (source offset : Nat) :
    readSentence ⟨text, source, offset⟩ = .ok sentence := by
  obtain ⟨layout, _, rfl⟩ := readSentence_eq_ok_iff.mp h
  rw [Sentence.terms_ofTerms] at htext
  obtain ⟨written, hwritten, hterms⟩ := htext.exists_layout fun term => writable_of_mem_words
  exact readSentence_eq_ok_iff.mpr ⟨written, hwritten, by rw [hterms]⟩

/-- What has been read can be written and read again. A script comes back with the same sentences,
on lines that are counted from one. A sentence comes back as it is, however it is spread out. -/
theorem read_written (excerpt : Excerpt) :
    (∀ script, excerpt.readScript = .ok script → ∀ source offset, ∃ again,
      readScript ⟨script.written, source, offset⟩ = .ok again ∧
        again.statements.map Statement.nodes = script.statements.map Statement.nodes ∧
        again.statements.map Statement.line = List.range' 1 script.statements.length) ∧
    ∀ sentence, excerpt.readSentence = .ok sentence → ∀ text, Spread sentence.terms text →
      ∀ source offset, readSentence ⟨text, source, offset⟩ = .ok sentence := by
  apply And.intro
  · intro script hscript source offset
    exact readScript_written hscript source offset
  · intro sentence hsentence text htext source offset
    exact readSentence_spread hsentence htext source offset

theorem read_written_print :
    (∃ again, readScript ⟨"direct-object(\"é\") verb(print)\nverb(say)".toList, 0, 0⟩ = .ok again ∧
      again.statements.map Statement.nodes =
        [[.directObject "\"é\"", .verb "print"], [.verb "say"]] ∧
      again.statements.map Statement.line = [1, 2]) ∧
    readSentence ⟨"verb(print)\t\ndirect-object(\"é\")".toList, 0, 0⟩ =
      .ok (.ofTerms [.verb "print", .directObject "\"é\""]) := by
  let script : Script := ⟨[
    ⟨[⟨.directObject "\"é\"", ⟨11, 18⟩⟩, ⟨.verb "print", ⟨20, 28⟩⟩], ⟨10, 28⟩, 2⟩,
    ⟨[⟨.verb "say", ⟨30, 36⟩⟩], ⟨30, 36⟩, 3⟩], 3⟩
  have hscript : readScript ⟨"#\n o(\"é\")\t v(print)\r\nv(say)".toList, 3, 8⟩ = .ok script := by
    decide +kernel
  have hwritten : script.written = "direct-object(\"é\") verb(print)\nverb(say)".toList := by
    decide +kernel
  have hsentence : readSentence ⟨" v(print) o(\"é\")".toList, 3, 8⟩ =
      .ok (.ofTerms [.verb "print", .directObject "\"é\""]) := by
    decide +kernel
  have hgap : Text.IsBlank ['\t', '\n'] :=
    List.forall_mem_cons.mpr ⟨rfl, List.forall_mem_singleton.mpr rfl⟩
  have hspread : Spread [.verb "print", .directObject "\"é\""]
      "verb(print)\t\ndirect-object(\"é\")".toList :=
    .cons (.verb "print") hgap (List.cons_ne_nil _ _) (.last (.directObject "\"é\""))
  obtain ⟨again, hread, hnodes, hlines⟩ := (read_written _).1 script hscript 0 0
  rw [hwritten] at hread
  exact ⟨⟨again, hread, hnodes, hlines⟩, (read_written _).2 _ hsentence _ hspread 0 0⟩

end Excerpt

end FreeOrder
