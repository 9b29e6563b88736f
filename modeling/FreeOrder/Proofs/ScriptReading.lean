import FreeOrder.Proofs.Places
import FreeOrder.Script.Reading
import Mathlib.Data.List.DropRight

namespace FreeOrder

section Collecting

variable {ε ζ α β : Type} {result : Except ε α} {results left right : List (Except ε α)}

def both : Except (List ε) (List α) → Except (List ε) (List α) → Except (List ε) (List α)
  | .ok values, .ok others => .ok (values ++ others)
  | .ok _, .error errors => .error errors
  | .error errors, .ok _ => .error errors
  | .error errors, .error others => .error (errors ++ others)

theorem exists_of_both_error {left right : Except (List ε) (List α)} {errors : List ε} {error : ε}
    (h : both left right = .error errors) (hmem : error ∈ errors) :
    ∃ found, (left = .error found ∨ right = .error found) ∧ error ∈ found := by
  cases left with
  | ok values =>
    cases right with
    | ok others => cases h
    | error found =>
      cases h
      exact ⟨errors, .inr rfl, hmem⟩
  | error found =>
    cases right with
    | ok others =>
      cases h
      exact ⟨errors, .inl rfl, hmem⟩
    | error others =>
      cases h
      rcases List.mem_append.mp hmem with hmem | hmem
      · exact ⟨found, .inl rfl, hmem⟩
      · exact ⟨others, .inr rfl, hmem⟩

theorem collect_cons_ok (value : α) (results : List (Except ε α)) :
    collect (.ok value :: results) = (collect results).map (value :: ·) := by
  simp only [collect, List.filterMap_cons]
  split <;> rfl

theorem collect_cons_error (error : ε) (results : List (Except ε α)) :
    collect (.error error :: results) = both (.error [error]) (collect results) := by
  simp only [collect, List.filterMap_cons]
  split <;> simp_all [both]

theorem collect_append (left right : List (Except ε α)) :
    collect (left ++ right) = both (collect left) (collect right) := by
  induction left with
  | nil =>
    change collect right = both (.ok []) (collect right)
    cases collect right <;> rfl
  | cons result left ih =>
    rw [List.cons_append]
    cases result with
    | ok value =>
      rw [collect_cons_ok, collect_cons_ok, ih]
      cases collect left <;> cases collect right <;> rfl
    | error error =>
      rw [collect_cons_error, collect_cons_error, ih]
      cases collect left <;> cases collect right <;> rfl

theorem collect_map (f : α → β) (g : ε → ζ) (results : List (Except ε α)) :
    collect (results.map fun result => (result.map f).mapError g) =
      ((collect results).map (List.map f)).mapError (List.map g) := by
  induction results with
  | nil => rfl
  | cons result results ih =>
    rw [List.map_cons]
    cases result with
    | ok value =>
      change collect (.ok (f value) :: _) = _
      rw [collect_cons_ok, collect_cons_ok, ih]
      cases collect results <;> rfl
    | error error =>
      change collect (.error (g error) :: _) = _
      rw [collect_cons_error, collect_cons_error, ih]
      cases collect results <;> rfl

theorem eq_map_ok_of_collect {values : List α} (h : collect results = .ok values) :
    results = values.map .ok := by
  induction results generalizing values with
  | nil =>
    cases h
    rfl
  | cons result results ih =>
    cases result with
    | ok value =>
      rw [collect_cons_ok] at h
      obtain ⟨others, hothers, rfl⟩ := map_eq_ok_iff.mp h
      rw [ih hothers, List.map_cons]
    | error error =>
      rw [collect_cons_error] at h
      cases hothers : collect results <;> rw [hothers] at h <;> cases h

theorem error_mem_of_collect {errors : List ε} (h : collect results = .error errors) {error : ε}
    (hmem : error ∈ errors) : .error error ∈ results := by
  induction results generalizing errors with
  | nil => cases h
  | cons result results ih =>
    cases result with
    | ok value =>
      rw [collect_cons_ok] at h
      exact List.mem_cons_of_mem _ (ih (map_eq_error_iff.mp h) hmem)
    | error first =>
      rw [collect_cons_error] at h
      obtain ⟨found, hfirst | hothers, hmem⟩ := exists_of_both_error h hmem
      · cases hfirst
        rw [List.mem_singleton.mp hmem]
        exact List.mem_cons_self
      · exact List.mem_cons_of_mem _ (ih hothers hmem)

end Collecting

namespace Text

variable {text line front : List Char} {pieces : List (List Char)}

/-- A text of whole lines: it is empty or ends in a line feed. -/
def IsWhole (text : List Char) : Prop :=
  text = [] ∨ text.getLast? = some '\n'

theorem IsWhole.tail {c : Char} (h : IsWhole (c :: text)) : IsWhole text := by
  rcases h with h | h
  · cases h
  · cases text with
    | nil => exact .inl rfl
    | cons d rest =>
      rw [List.getLast?_cons_cons] at h
      exact .inr h

theorem IsWhole.ne_nil_of_ne {c : Char} (h : IsWhole (c :: text)) (hc : c ≠ '\n') : text ≠ [] := by
  intro he
  subst he
  rcases h with h | h
  · cases h
  · exact hc (by simpa using h)

theorem lines_eq_nil_iff : lines text = [] ↔ text = [] := by
  apply Iff.intro
  · intro h
    rw [← flatten_lines text, h, List.flatten_nil]
  · intro h
    rw [h, lines]

theorem lines_cons_of_ne {c : Char} (hc : c ≠ '\n') {others : List (List Char)}
    (h : lines text = line :: others) : lines (c :: text) = (c :: line) :: others := by
  simp only [lines, if_neg hc, h]

theorem lines_append (h : IsWhole front) (back : List Char) :
    lines (front ++ back) = lines front ++ lines back := by
  induction front with
  | nil => rfl
  | cons c front ih =>
    rw [List.cons_append]
    by_cases hc : c = '\n'
    · rw [lines, lines, if_pos hc, if_pos hc, ih h.tail, List.cons_append]
    · cases hfront : lines front with
      | nil => exact (h.ne_nil_of_ne hc (lines_eq_nil_iff.mp hfront)).elim
      | cons line others =>
        rw [lines_cons_of_ne hc hfront]
        apply lines_cons_of_ne hc
        rw [ih h.tail, hfront]
        rfl

theorem length_lines (h : IsWhole front) : (lines front).length = front.count '\n' := by
  induction front with
  | nil => rfl
  | cons c front ih =>
    by_cases hc : c = '\n'
    · rw [lines, if_pos hc, List.length_cons, ih h.tail, hc, List.count_cons_self]
    · rw [List.count_cons_of_ne hc, ← ih h.tail]
      cases hfront : lines front with
      | nil => exact (h.ne_nil_of_ne hc (lines_eq_nil_iff.mp hfront)).elim
      | cons line others => rw [lines_cons_of_ne hc hfront, List.length_cons, List.length_cons]

theorem lines_of_not_mem (h : '\n' ∉ line) (hne : line ≠ []) : lines line = [line] := by
  induction line with
  | nil => exact (hne rfl).elim
  | cons c rest ih =>
    have hc : c ≠ '\n' := by
      intro he
      exact h (he ▸ List.mem_cons_self)
    cases rest with
    | nil => simp [lines, hc]
    | cons d more =>
      apply lines_cons_of_ne hc
      exact ih (fun hmem => h (List.mem_cons_of_mem _ hmem)) (List.cons_ne_nil d more)

theorem lines_cons_line (h : '\n' ∉ line) (rest : List Char) :
    lines (line ++ '\n' :: rest) = (line ++ ['\n']) :: lines rest := by
  induction line with
  | nil => rw [List.nil_append, lines, if_pos rfl, List.nil_append]
  | cons c line ih =>
    rw [List.mem_cons, not_or] at h
    exact lines_cons_of_ne (Ne.symm h.1) (ih h.2)

/-- The pieces are what the text falls into where it is cut after each of its line feeds. -/
inductive IsCut : List Char → List (List Char) → Prop
  | nil : IsCut [] []
  | last {line : List Char} (hline : '\n' ∉ line) (hne : line ≠ []) : IsCut line [line]
  | cons {line rest : List Char} {pieces : List (List Char)} (hline : '\n' ∉ line)
      (hrest : IsCut rest pieces) : IsCut (line ++ '\n' :: rest) ((line ++ ['\n']) :: pieces)

theorem isCut_lines (text : List Char) : IsCut text (lines text) := by
  induction text with
  | nil => exact .nil
  | cons c rest ih =>
    by_cases hc : c = '\n'
    · rw [lines, if_pos hc, hc]
      exact .cons List.not_mem_nil ih
    · have hmem {line : List Char} (hline : '\n' ∉ line) : '\n' ∉ c :: line :=
        List.not_mem_cons_of_ne_of_not_mem (Ne.symm hc) hline
      generalize hpieces : lines rest = pieces at ih
      cases ih with
      | nil =>
        rw [lines, if_neg hc, hpieces]
        exact .last (hmem List.not_mem_nil) (List.cons_ne_nil c [])
      | last hline _ =>
        rw [lines_cons_of_ne hc hpieces]
        exact .last (hmem hline) (List.cons_ne_nil c _)
      | cons hline hrest =>
        rw [lines_cons_of_ne hc hpieces]
        exact .cons (hmem hline) hrest

/-- A text falls into its lines, and into no other pieces. -/
theorem IsCut.eq_lines (h : IsCut text pieces) : pieces = lines text := by
  induction h with
  | nil => rfl
  | last hline hne => exact (lines_of_not_mem hline hne).symm
  | cons hline _ ih => rw [lines_cons_line hline, ih]

theorem dropLineEnd_isPrefix (line : List Char) : dropLineEnd line <+: line :=
  List.rdropWhile_prefix _ line

/-- What ends with neither a line feed nor a carriage return loses nothing. -/
theorem dropLineEnd_concat {c : Char} (hc : c ≠ '\n') (hc' : c ≠ '\r') :
    dropLineEnd (line ++ [c]) = line ++ [c] := by
  have hkeep : (c == '\n' || c == '\r') = false := by simp [hc, hc']
  exact List.rdropWhile_concat_neg _ _ _ (by simp [hkeep])

theorem dropLineEnd_line_feed (line : List Char) :
    dropLineEnd (line ++ ['\n']) = dropLineEnd line :=
  List.rdropWhile_concat_pos _ _ _ rfl

theorem exists_line_end (line : List Char) :
    ∃ lineEnd, IsBlank lineEnd ∧ line = dropLineEnd line ++ lineEnd := by
  refine ⟨line.rtakeWhile fun c => c == '\n' || c == '\r', ?_, ?_⟩
  · intro c hc
    have hend := List.mem_rtakeWhile_imp hc
    rw [Bool.or_eq_true, beq_iff_eq, beq_iff_eq] at hend
    rcases hend with rfl | rfl <;> rfl
  · exact List.rdropWhile_append_rtakeWhile.symm

theorem IsCut.not_mem_dropLineEnd (h : IsCut text pieces) :
    ∀ piece ∈ pieces, '\n' ∉ dropLineEnd piece := by
  induction h with
  | nil => exact List.forall_mem_nil _
  | last hline _ =>
    rw [List.forall_mem_singleton]
    intro hmem
    exact hline ((dropLineEnd_isPrefix _).subset hmem)
  | cons hline _ ih =>
    rw [List.forall_mem_cons, dropLineEnd_line_feed]
    refine ⟨?_, ih⟩
    intro hmem
    exact hline ((dropLineEnd_isPrefix _).subset hmem)

end Text

namespace Line

variable {line : Line} {source number start : Nat} {statement : Statement} {text : List Char}
  {pieces : List (List Char)}

theorem readStatement_eq (line : Line) (source : Nat) :
    line.readStatement source = (line.excerpt source).readTerms.map fun terms =>
      ⟨terms, (line.excerpt source).span, line.number⟩ := rfl

def readEach (source : Nat) (lines : List Line) : Except (List SyntaxError) (List Statement) :=
  collect ((lines.filter (!·.isSkipped)).map (·.readStatement source))

theorem readEach_append (source : Nat) (above below : List Line) :
    readEach source (above ++ below) = both (readEach source above) (readEach source below) := by
  rw [readEach, List.filter_append, List.map_append, collect_append]
  rfl

theorem readEach_cons (hskipped : line.isSkipped = false)
    (hread : line.readStatement source = .ok statement) (lines : List Line) :
    readEach source (line :: lines) = (readEach source lines).map (statement :: ·) := by
  rw [readEach, List.filter_cons_of_pos (by simp [hskipped]), List.map_cons, hread, collect_cons_ok]
  rfl

/-- A change of lines that shows in what is read, but not in which lines are read. -/
theorem readEach_map {change : Line → Line} {onStatement : Statement → Statement}
    {onError : SyntaxError → SyntaxError} {lines : List Line}
    (hskipped : ∀ line ∈ lines, (change line).isSkipped = line.isSkipped)
    (hread : ∀ line ∈ lines, (change line).readStatement source =
      ((line.readStatement source).map onStatement).mapError onError) :
    readEach source (lines.map change) =
      ((readEach source lines).map (List.map onStatement)).mapError (List.map onError) := by
  have hkept : lines.filter ((fun line : Line => !line.isSkipped) ∘ change) =
      lines.filter fun line => !line.isSkipped :=
    List.filter_congr fun line hline => congrArg not (hskipped line hline)
  have hresults : (lines.filter fun line => !line.isSkipped).map
      ((fun line : Line => line.readStatement source) ∘ change) =
      ((lines.filter fun line => !line.isSkipped).map (·.readStatement source)).map
        fun result => (result.map onStatement).mapError onError := by
    rw [List.map_map]
    exact List.map_congr_left fun line hline => hread line (List.mem_filter.mp hline).1
  rw [readEach, List.filter_map, hkept, List.map_map, hresults, collect_map]
  rfl

theorem isSkipped_of_isBlank (h : Text.IsBlank line.text) : line.isSkipped = true := by
  rw [isSkipped, Text.trimStart_eq_nil_iff.mpr h]

/-- The line stands in the excerpt where it says, and is counted with the lines before it. -/
def StandsIn (line : Line) (excerpt : Excerpt) : Prop :=
  ∃ front back, excerpt.text = front ++ (line.text ++ back) ∧
    line.start = excerpt.offset + Text.byteLength front ∧ line.number = 1 + front.count '\n'

theorem text_ofPieces (number start : Nat) (pieces : List (List Char)) :
    (ofPieces number start pieces).map (·.text) = pieces.map Text.dropLineEnd := by
  induction pieces generalizing number start with
  | nil => rfl
  | cons piece pieces ih =>
    rw [ofPieces, List.map_cons, List.map_cons, ih]

theorem exists_split_of_mem (h : Text.IsCut text pieces) (hmem : line ∈ ofPieces number start pieces) :
    ∃ front back, text = front ++ (line.text ++ back) ∧
      line.start = start + Text.byteLength front ∧ line.number = number + front.count '\n' := by
  induction h generalizing number start with
  | nil => cases hmem
  | @last body hbody hne =>
    rw [ofPieces, ofPieces, List.mem_singleton] at hmem
    subst hmem
    obtain ⟨back, hback⟩ := Text.dropLineEnd_isPrefix body
    exact ⟨[], back, hback.symm, rfl, rfl⟩
  | @cons body rest pieces hbody _ ih =>
    rw [ofPieces] at hmem
    rcases List.mem_cons.mp hmem with rfl | hmem
    · obtain ⟨back, hback⟩ := Text.dropLineEnd_isPrefix (body ++ ['\n'])
      refine ⟨[], back ++ rest, ?_, rfl, rfl⟩
      rw [List.nil_append, ← List.append_assoc, hback, List.append_assoc, List.singleton_append]
    · obtain ⟨front, back, rfl, hstart, hnumber⟩ := ih hmem
      refine ⟨body ++ '\n' :: front, back, ?_, ?_, ?_⟩
      · simp
      · rw [hstart]
        simp [Nat.add_assoc]
      · rw [hnumber, List.count_append, List.count_cons_self, List.count_eq_zero.mpr hbody]
        omega

end Line

namespace Excerpt

variable {excerpt : Excerpt} {line : Line} {statement : Statement} {script : Script}

theorem readStatements_eq (excerpt : Excerpt) :
    excerpt.readStatements = Line.readEach excerpt.source excerpt.lines := rfl

theorem standsIn_of_mem_lines (h : line ∈ excerpt.lines) : line.StandsIn excerpt :=
  Line.exists_split_of_mem (Text.isCut_lines excerpt.text) h

/-- A line stands in the excerpt where it says that it does. -/
theorem holds_of_mem_lines (h : line ∈ excerpt.lines) :
    excerpt.Holds (.ofText line.start line.text) line.text := by
  obtain ⟨front, back, htext, hstart, _⟩ := standsIn_of_mem_lines h
  exact ⟨front, back, htext, by rw [hstart]⟩

theorem not_mem_of_mem_lines (h : line ∈ excerpt.lines) : '\n' ∉ line.text := by
  have hmem : line.text ∈ excerpt.lines.map (·.text) := List.mem_map_of_mem h
  rw [lines, Line.text_ofPieces] at hmem
  obtain ⟨piece, hpiece, hline⟩ := List.mem_map.mp hmem
  rw [← hline]
  exact (Text.isCut_lines excerpt.text).not_mem_dropLineEnd piece hpiece

theorem exists_line_of_mem (h : excerpt.readScript = .ok script)
    (hmem : statement ∈ script.statements) : ∃ line ∈ excerpt.lines,
      (line.excerpt excerpt.source).readTerms = .ok statement.terms ∧
        statement.span = (line.excerpt excerpt.source).span := by
  obtain ⟨statements, hstatements, rfl⟩ := map_eq_ok_iff.mp h
  have hok : .ok statement ∈ statements.map (.ok : Statement → Except SyntaxError Statement) :=
    List.mem_map_of_mem hmem
  rw [← eq_map_ok_of_collect hstatements] at hok
  obtain ⟨line, hline, hread⟩ := List.mem_map.mp hok
  obtain ⟨terms, hterms, rfl⟩ := map_eq_ok_iff.mp hread
  exact ⟨line, (List.mem_filter.mp hline).1, hterms, rfl⟩

theorem exists_line_of_error {errors : List SyntaxError} (h : excerpt.readScript = .error errors)
    {error : SyntaxError} (hmem : error ∈ errors) : ∃ line ∈ excerpt.lines,
      line.isSkipped = false ∧ (line.excerpt excerpt.source).readTerms = .error error := by
  have herrors : excerpt.readStatements = .error errors := map_eq_error_iff.mp h
  obtain ⟨line, hline, hread⟩ := List.mem_map.mp (error_mem_of_collect herrors hmem)
  obtain ⟨hline, hskipped⟩ := List.mem_filter.mp hline
  exact ⟨line, hline, by simpa using hskipped, map_eq_error_iff.mp hread⟩

end Excerpt

end FreeOrder
