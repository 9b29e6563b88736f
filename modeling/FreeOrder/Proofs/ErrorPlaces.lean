import FreeOrder.Proofs.Relocation

namespace FreeOrder

def Text.StartsWord (text : List Char) : Prop :=
  ∃ c rest, text = c :: rest ∧ isBlank c = false

theorem Text.StartsWord.append {text : List Char} (h : StartsWord text) (back : List Char) :
    StartsWord (text ++ back) := by
  obtain ⟨c, rest, rfl, hc⟩ := h
  exact ⟨c, rest ++ back, rfl, hc⟩

theorem Text.startsWord_dropWhile {text rest : List Char} {c : Char}
    (h : text.dropWhile isBlank = c :: rest) : StartsWord (c :: rest) := by
  have hstop := List.head?_dropWhile_not isBlank text
  rw [h] at hstop
  exact ⟨c, rest, rfl, by simpa using hstop⟩

structure TermFault.Quotes (flaw : TermFault) (text : List Char) : Prop where
  isPrefix : flaw.fragment <+: text
  ne_nil : flaw.fragment ≠ []

/-- What the error quotes stands in the excerpt, at the range of the error. -/
structure SyntaxError.LiesIn (error : SyntaxError) (excerpt : Excerpt) : Prop where
  holds : excerpt.Holds error.span error.fragment.toList
  source_eq : error.source = excerpt.source

/-- The error lies in the excerpt and quotes at least one character of it. -/
structure SyntaxError.Quotes (error : SyntaxError) (excerpt : Excerpt) : Prop extends
    error.LiesIn excerpt where
  ne_empty : error.fragment ≠ ""

theorem run_concat_isPrefix {α : Type} {p : α → Bool} {c : α} {text rest : List α}
    (h : text.dropWhile p = c :: rest) : text.takeWhile p ++ [c] <+: text := by
  refine ⟨rest, ?_⟩
  rw [List.append_assoc]
  exact (eq_run_append h).symm

namespace SyntaxError

variable {error : SyntaxError} {excerpt : Excerpt} {span : Span} {text : List Char}

theorem LiesIn.trans (h : excerpt.Holds span text)
    (herror : error.LiesIn ⟨text, excerpt.source, span.start⟩) : error.LiesIn excerpt :=
  ⟨h.trans herror.holds, herror.source_eq⟩

theorem Quotes.trans (h : excerpt.Holds span text)
    (herror : error.Quotes ⟨text, excerpt.source, span.start⟩) : error.Quotes excerpt :=
  ⟨herror.toLiesIn.trans h, herror.ne_empty⟩

theorem quotes_of_flaw {flaw : TermFault} (h : flaw.Quotes text) (source position : Nat) :
    Quotes ⟨flaw.fault, String.ofList flaw.fragment, position, source⟩
      ⟨text, source, position⟩ := by
  obtain ⟨⟨back, rfl⟩, hne⟩ := h
  refine ⟨⟨?_, rfl⟩, by simpa using hne⟩
  rw [span, String.toList_ofList]
  exact Excerpt.holds_front rfl

end SyntaxError

namespace Term

variable {opening text : List Char} {flaw : TermFault} {source position : Nat} {error : SyntaxError}

theorem chunk_isPrefix (text : List Char) : chunk text <+: text :=
  List.takeWhile_prefix _

theorem chunk_ne_nil (h : Text.StartsWord text) : chunk text ≠ [] := by
  obtain ⟨c, rest, rfl, hc⟩ := h
  simp [chunk, hc]

theorem quotes_chunk (fault : SyntaxFault) (h : Text.StartsWord text) :
    TermFault.Quotes ⟨fault, chunk text⟩ text :=
  ⟨chunk_isPrefix text, chunk_ne_nil h⟩

theorem quotes_opening (fault : SyntaxFault) (h : Text.StartsWord opening) {part : List Char}
    (hpart : part <+: text) : TermFault.Quotes ⟨fault, opening ++ part⟩ (opening ++ text) := by
  refine ⟨(List.prefix_append_right_inj opening).mpr hpart, ?_⟩
  obtain ⟨c, rest, rfl, _⟩ := h
  exact List.cons_ne_nil c _

theorem readVerb_error (hopening : Text.StartsWord opening)
    (h : readVerb opening text = .error flaw) : flaw.Quotes (opening ++ text) := by
  simp only [readVerb] at h
  split at h
  · rename_i rest hrest
    split at h
    · cases h
      rw [List.append_assoc]
      exact quotes_opening _ hopening (run_concat_isPrefix hrest)
    · cases h
  · rename_i rest hrest
    cases h
    rw [List.append_assoc]
    exact quotes_opening _ hopening (run_concat_isPrefix hrest)
  · cases h
    exact quotes_opening _ hopening (List.takeWhile_prefix _)

theorem readDirectObject_error (hopening : Text.StartsWord opening)
    (h : readDirectObject opening text = .error flaw) : flaw.Quotes (opening ++ text) := by
  simp only [readDirectObject] at h
  split at h
  · rename_i body
    split at h
    · cases h
      exact quotes_opening _ hopening (List.prefix_refl _)
    · rename_i quote after hafter
      split at h
      · cases h
      · cases h
        obtain ⟨more, hmore⟩ := chunk_isPrefix after
        have hsplit : body = body.takeWhile (· != '"') ++ quote :: (chunk after ++ more) := by
          rw [hmore]
          exact eq_run_append hafter
        have hbody : '"' :: body.takeWhile (· != '"') ++ [quote] ++ chunk after <+: '"' :: body := by
          refine ⟨more, ?_⟩
          conv => rhs; rw [hsplit]
          simp
        rw [List.append_assoc]
        exact quotes_opening _ hopening hbody
  · cases h
    exact quotes_chunk _ (hopening.append text)

theorem startsWord_marker (h : text.takeWhile isMarkerChar ≠ []) :
    Text.StartsWord (text.takeWhile isMarkerChar) := by
  obtain ⟨c, rest, he⟩ := List.exists_cons_of_ne_nil h
  have hc : c ∈ text.takeWhile isMarkerChar := he ▸ List.mem_cons_self
  exact ⟨c, rest, he, isBlank_of_isMarkerChar (List.mem_takeWhile_imp hc)⟩

/-- A fault of a term quotes some of the text, from the beginning of the term on. -/
theorem read_error (hword : Text.StartsWord text) (h : read text = .error flaw) :
    flaw.Quotes text := by
  simp only [read] at h
  split at h
  · cases h
    exact quotes_chunk _ hword
  rename_i hmarker
  split at h
  · cases h
    exact ⟨List.takeWhile_prefix _, by simpa using hmarker⟩
  split at h
  · rename_i body hbody
    have htext : text = text.takeWhile isMarkerChar ++ ['('] ++ body := by
      rw [List.append_assoc]
      exact eq_run_append hbody
    have hopening := (startsWord_marker (by simpa using hmarker)).append ['(']
    rw [htext]
    split at h
    · exact readVerb_error hopening h
    · exact readDirectObject_error hopening h
  · cases h
    exact quotes_chunk _ hword

/-- What comes after a term and some blanks stands where the next term is looked for. -/
theorem holds_next {reading : Reading} (hread : read text = .ok reading) {c : Char}
    {rest : List Char} (hrest : reading.rest.dropWhile isBlank = c :: rest)
    (source position : Nat) :
    Excerpt.Holds ⟨text, source, position⟩
      (.ofText ((Span.ofText position reading.spelling).stop +
        Text.byteLength (reading.rest.takeWhile isBlank)) (c :: rest)) (c :: rest) := by
  have htext : text = reading.spelling ++ reading.rest.takeWhile isBlank ++ c :: rest := by
    rw [List.append_assoc, ← eq_run_append hrest]
    exact (read_ok hread).1
  have hstop : (Span.ofText position reading.spelling).stop +
      Text.byteLength (reading.rest.takeWhile isBlank) =
        position + Text.byteLength (reading.spelling ++ reading.rest.takeWhile isBlank) := by
    rw [Text.byteLength_append, ← Nat.add_assoc]
    rfl
  rw [hstop]
  exact Excerpt.holds_back htext

theorem readOne_error (hword : Text.StartsWord text)
    (h : readOne source position text = .error error) : error.Quotes ⟨text, source, position⟩ := by
  simp only [readOne] at h
  split at h
  · rename_i flaw hflaw
    cases h
    exact SyntaxError.quotes_of_flaw (read_error hword hflaw) source position
  rename_i reading hread
  split at h
  · cases h
  rename_i c rest hrest
  have hnext := holds_next hread hrest source position
  split at h
  · rename_i hc
    cases h
    subst hc
    apply SyntaxError.Quotes.trans hnext
    have hflaw : TermFault.Quotes ⟨.strayClosing, [')']⟩ (')' :: rest) :=
      ⟨⟨rest, rfl⟩, List.cons_ne_nil _ _⟩
    exact SyntaxError.quotes_of_flaw hflaw source _
  split at h
  · cases h
    apply SyntaxError.Quotes.trans hnext
    exact SyntaxError.quotes_of_flaw (quotes_chunk .noGap (Text.startsWord_dropWhile hrest)) source _
  · cases h

theorem readOne_next_holds {term : Located Term} {next : Nat} {rest : List Char}
    (h : readOne source position text = .ok (.next term next rest)) :
    Excerpt.Holds ⟨text, source, position⟩ (.ofText next rest) rest ∧ Text.StartsWord rest := by
  simp only [readOne] at h
  split at h
  · cases h
  rename_i reading hread
  split at h
  · cases h
  rename_i c more hrest
  split at h
  · cases h
  split at h
  · cases h
  · cases h
    exact ⟨holds_next hread hrest source position, Text.startsWord_dropWhile hrest⟩

theorem readAll_error (hword : Text.StartsWord text)
    (h : readAll source position text = .error error) : error.Quotes ⟨text, source, position⟩ := by
  fun_induction readAll source position text with
  | case1 position text found hone =>
    cases h
    exact readOne_error hword hone
  | case2 position text term hone => cases h
  | case3 position text term next rest hone ih =>
    -- The rest of the text begins with a word again, and what stands in it stands in the text.
    obtain ⟨hholds, hrest⟩ := readOne_next_holds hone
    exact (ih hrest (map_eq_error_iff.mp h)).trans hholds

end Term

namespace Excerpt

variable {excerpt : Excerpt} {error : SyntaxError}

theorem readTerms_error (h : excerpt.readTerms = .error error) :
    error.LiesIn excerpt ∧ (error.fragment = "" → Text.IsBlank excerpt.text) := by
  simp only [readTerms] at h
  split at h
  · rename_i hblank
    cases h
    have htext := List.takeWhile_append_dropWhile (p := isBlank) (l := excerpt.text)
    rw [hblank] at htext
    exact ⟨⟨holds_back htext.symm, rfl⟩, fun _ => Text.trimStart_eq_nil_iff.mp hblank⟩
  · rename_i c rest hrest
    have hholds := holds_back (eq_run_append hrest)
    have hquotes := (Term.readAll_error (Text.startsWord_dropWhile hrest) h).trans hholds
    exact ⟨hquotes.toLiesIn, fun hempty => (hquotes.ne_empty hempty).elim⟩

theorem readSentence_error (h : excerpt.readSentence = .error error) :
    error.LiesIn excerpt ∧ (error.fragment = "" → Text.IsBlank excerpt.text) :=
  readTerms_error (map_eq_error_iff.mp h)

theorem readScript_error {errors : List SyntaxError} (h : excerpt.readScript = .error errors)
    (hmem : error ∈ errors) : error.Quotes excerpt := by
  obtain ⟨line, hline, hskipped, hread⟩ := exists_line_of_error h hmem
  obtain ⟨hlies, hblank⟩ := readTerms_error hread
  refine ⟨hlies.trans (holds_of_mem_lines hline), ?_⟩
  intro hempty
  rw [Line.isSkipped_of_isBlank (hblank hempty)] at hskipped
  cases hskipped

end Excerpt

/-- The error points into a part of a file: at some text there, which is what it quotes. -/
structure SyntaxError.PointsInto (error : SyntaxError) (part file : Excerpt) : Prop where
  within : error.span.Within part.span
  holds : file.Holds error.span error.fragment.toList
  source_eq : error.source = part.source

theorem SyntaxError.LiesIn.pointsInto {error : SyntaxError} {part file : Excerpt}
    (h : error.LiesIn part) (hpart : file.Holds part.span part.text) :
    error.PointsInto part file :=
  ⟨h.holds.within, hpart.trans h.holds, h.source_eq⟩

namespace Excerpt

/-- Every syntax error points at what it quotes, in any file that the excerpt is a part of. It
quotes something, unless a whole sentence is blank. And where the excerpt lies further on, the same
is read with all ranges further on. -/
theorem syntaxError_pointsInto (front text back : List Char) (source : Nat) :
    let part : Excerpt := ⟨text, source, Text.byteLength front⟩
    let file : Excerpt := ⟨front ++ text ++ back, source, 0⟩
    (∀ error, part.readTerms = .error error →
      error.PointsInto part file ∧ (error.fragment = "" → Text.IsBlank text)) ∧
    (∀ error, part.readSentence = .error error →
      error.PointsInto part file ∧ (error.fragment = "" → Text.IsBlank text)) ∧
    (∀ errors, part.readScript = .error errors → ∀ error ∈ errors,
      error.PointsInto part file ∧ error.fragment ≠ "") ∧
    ∀ offset bytes,
      readTerms ⟨text, source, offset + bytes⟩ =
        ((readTerms ⟨text, source, offset⟩).map (List.map (.shift bytes))).mapError
          (.shift bytes) ∧
      readSentence ⟨text, source, offset + bytes⟩ =
        (readSentence ⟨text, source, offset⟩).mapError (.shift bytes) ∧
      readScript ⟨text, source, offset + bytes⟩ =
        ((readScript ⟨text, source, offset⟩).map (.shift bytes)).mapError
          (List.map (.shift bytes)) := by
  intro part file
  have hpart : file.Holds part.span part.text := by
    refine ⟨front, back, List.append_assoc _ _ _, ?_⟩
    rw [Nat.zero_add]
    rfl
  refine ⟨?_, ?_, ?_, ?_⟩
  · intro error herror
    obtain ⟨hlies, hblank⟩ := readTerms_error herror
    exact ⟨hlies.pointsInto hpart, hblank⟩
  · intro error herror
    obtain ⟨hlies, hblank⟩ := readSentence_error herror
    exact ⟨hlies.pointsInto hpart, hblank⟩
  · intro errors herrors error hmem
    have hquotes := readScript_error herrors hmem
    exact ⟨hquotes.toLiesIn.pointsInto hpart, hquotes.ne_empty⟩
  · intro offset bytes
    exact ⟨readTerms_shift bytes ⟨text, source, offset⟩,
      readSentence_shift bytes ⟨text, source, offset⟩,
      readScript_shift bytes ⟨text, source, offset⟩⟩

theorem syntaxError_pointsInto_second_line :
    let front := "# é\n".toList
    let text := "v(say)\r\n v(é)§ v(a)".toList
    let back := "\n# b".toList
    SyntaxError.PointsInto ⟨.noGap, "§", 19, 3⟩ ⟨text, 3, Text.byteLength front⟩
        ⟨front ++ text ++ back, 3, 0⟩ ∧
      readScript ⟨text, 3, Text.byteLength front + 7⟩ = .error [⟨.noGap, "§", 26, 3⟩] := by
  intro front text back
  have hread : readScript ⟨text, 3, Text.byteLength front⟩ = .error [⟨.noGap, "§", 19, 3⟩] := by
    decide +kernel
  obtain ⟨_, _, hscript, hshift⟩ := syntaxError_pointsInto front text back 3
  obtain ⟨_, _, hfurther⟩ := hshift (Text.byteLength front) 7
  rw [hread] at hfurther
  exact ⟨(hscript _ hread _ List.mem_cons_self).1, hfurther⟩

end Excerpt

end FreeOrder
