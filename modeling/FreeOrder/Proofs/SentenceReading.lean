import FreeOrder.Proofs.TermReading

namespace FreeOrder

theorem map_eq_ok_iff {ε α β : Type} {f : α → β} {result : Except ε α} {value : β} :
    result.map f = .ok value ↔ ∃ given, result = .ok given ∧ f given = value := by
  cases result <;> simp [Except.map]

theorem map_eq_error_iff {ε α β : Type} {f : α → β} {result : Except ε α} {error : ε} :
    result.map f = .error error ↔ result = .error error := by
  cases result <;> simp [Except.map]

theorem mapError_eq_error_iff {ε ζ α : Type} {f : ε → ζ} {result : Except ε α} {error : ζ} :
    result.mapError f = .error error ↔ ∃ given, result = .error given ∧ f given = error := by
  cases result <;> simp [Except.mapError]

theorem mapError_eq_ok_iff {ε ζ α : Type} {f : ε → ζ} {result : Except ε α} {value : α} :
    result.mapError f = .ok value ↔ result = .ok value := by
  cases result <;> simp [Except.mapError]

theorem Text.isBlank_takeWhile (text : List Char) : IsBlank (text.takeWhile isBlank) := by
  intro c hc
  exact List.mem_takeWhile_imp hc

/-- What comes after some blanks in a sentence: its end, or words that start with a marker. -/
def IsTail (words : List (Word × List Char)) : Prop :=
  words = [] ∨ IsSpaced words

theorem IsSpaced.uncons {word : Word} {gap : List Char} {words : List (Word × List Char)}
    (h : IsSpaced ((word, gap) :: words)) : Text.IsBlank gap ∧ IsTail words := by
  cases h with
  | last hgap => exact ⟨hgap, .inl rfl⟩
  | cons hgap _ hwords => exact ⟨hgap, .inr hwords⟩

namespace Term

variable {source position : Nat} {text gap : List Char}

theorem readOne_last (word : Word) (hgap : Text.IsBlank gap) :
    readOne source position (word.text ++ gap) = .ok (.finished (word.located position)) := by
  have hdrop : gap.dropWhile isBlank = [] := List.dropWhile_eq_nil_iff.mpr hgap
  simp only [readOne, read_word, hdrop]
  rfl

theorem readOne_next (word : Word) (hgap : Text.IsBlank gap) (hne : gap ≠ []) {c : Char}
    (hc : isMarkerChar c = true) (rest : List Char) :
    readOne source position (word.text ++ (gap ++ c :: rest)) =
      .ok (.next (word.located position)
        (position + Text.byteLength word.text + Text.byteLength gap) (c :: rest)) := by
  have hblank := isBlank_of_isMarkerChar hc
  simp only [readOne, read_word, takeWhile_run hgap hblank, dropWhile_run hgap hblank,
    if_neg (ne_closing_of_isMarkerChar hc)]
  rw [if_neg (by simpa using hne)]
  rfl

/-- What a step finds at the position, at the front of the text: a word with blanks after it. -/
def Finds (position : Nat) (text : List Char) : Progress → Prop
  | .finished term => ∃ (word : Word) (gap : List Char), Text.IsBlank gap ∧
      text = word.text ++ gap ∧ term = word.located position
  | .next term next rest => ∃ (word : Word) (gap : List Char), Text.IsBlank gap ∧ gap ≠ [] ∧
      text = word.text ++ (gap ++ rest) ∧ term = word.located position ∧
      next = position + Text.byteLength word.text + Text.byteLength gap

theorem readOne_sound {progress : Progress} (h : readOne source position text = .ok progress) :
    Finds position text progress := by
  simp only [readOne] at h
  split at h
  · cases h
  rename_i reading hread
  obtain ⟨word, htext, hterm, hspelling⟩ := read_sound hread
  have hblank := Text.isBlank_takeWhile reading.rest
  rw [hterm, hspelling] at h
  split at h
  · rename_i hrest
    cases h
    exact ⟨word, reading.rest, List.dropWhile_eq_nil_iff.mp hrest, htext, rfl⟩
  · rename_i c rest hrest
    split at h
    · cases h
    split at h
    · cases h
    rename_i hne
    cases h
    refine ⟨word, reading.rest.takeWhile isBlank, hblank, ?_, ?_, rfl, rfl⟩
    · simpa using hne
    · rw [htext, ← eq_run_append hrest]

theorem readAll_of_error {error : SyntaxError}
    (h : readOne source position text = .error error) :
    readAll source position text = .error error := by
  rw [readAll]
  split <;> simp_all

theorem readAll_of_finished {term : Located Term}
    (h : readOne source position text = .ok (.finished term)) :
    readAll source position text = .ok [term] := by
  rw [readAll]
  split <;> simp_all

theorem readAll_of_next {term : Located Term} {next : Nat} {rest : List Char}
    (h : readOne source position text = .ok (.next term next rest)) :
    readAll source position text = (readAll source next rest).map (term :: ·) := by
  rw [readAll]
  split <;> simp_all

theorem readAll_spell {words : List (Word × List Char)} (h : IsSpaced words) :
    readAll source position (spell words) = .ok (placed position words) := by
  induction h generalizing position with
  | @last word gap hgap =>
    rw [spell_cons, spell_nil, List.append_nil, placed_cons, placed_nil]
    exact readAll_of_finished (readOne_last word hgap)
  | @cons word gap words hgap hne hwords ih =>
    obtain ⟨c, rest, he, hc⟩ := hwords.spell_eq_cons
    rw [spell_cons, he, readAll_of_next (readOne_next word hgap hne hc rest), ← he, ih,
      placed_cons]
    rfl

theorem readAll_sound {terms : List (Located Term)} (h : readAll source position text = .ok terms) :
    ∃ words, IsSpaced words ∧ text = spell words ∧ terms = placed position words := by
  fun_induction readAll source position text generalizing terms with
  | case1 position text error hone => cases h
  | case2 position text term hone =>
    cases h
    obtain ⟨word, gap, hgap, rfl, rfl⟩ := readOne_sound hone
    refine ⟨[(word, gap)], .last hgap, ?_, rfl⟩
    rw [spell_cons, spell_nil, List.append_nil]
  | case3 position text term next rest hone ih =>
    obtain ⟨word, gap, hgap, hne, rfl, rfl, rfl⟩ := readOne_sound hone
    obtain ⟨more, hmore, rfl⟩ := map_eq_ok_iff.mp h
    obtain ⟨words, hwords, rfl, rfl⟩ := ih hmore
    refine ⟨(word, gap) :: words, .cons hgap hne hwords, ?_, ?_⟩
    · rw [spell_cons]
    · rw [placed_cons]

end Term

namespace Excerpt

theorem readTerms_layout {excerpt : Excerpt} {layout : Layout} (h : layout.text = excerpt.text) :
    excerpt.readTerms = .ok (layout.terms excerpt.offset) := by
  obtain ⟨lead, words, hlead, hwords⟩ := layout
  obtain ⟨c, rest, he, hc⟩ := hwords.spell_eq_cons
  have htext : excerpt.text = lead ++ c :: rest := by rw [← h, Layout.text, he]
  have hblank := Term.isBlank_of_isMarkerChar hc
  simp only [readTerms, htext, takeWhile_run hlead hblank, dropWhile_run hlead hblank]
  rw [← he]
  exact Term.readAll_spell hwords

theorem readTerms_sound {excerpt : Excerpt} {terms : List (Located Term)}
    (h : excerpt.readTerms = .ok terms) :
    ∃ layout : Layout, layout.text = excerpt.text ∧ terms = layout.terms excerpt.offset := by
  have hlead := Text.isBlank_takeWhile excerpt.text
  simp only [readTerms] at h
  split at h
  · cases h
  · rename_i c rest hrest
    obtain ⟨words, hwords, htext, hterms⟩ := Term.readAll_sound h
    refine ⟨⟨excerpt.text.takeWhile isBlank, words, hlead, hwords⟩, ?_, hterms⟩
    rw [Layout.text, ← htext, ← eq_run_append hrest]

theorem readSentence_eq_ok_iff {excerpt : Excerpt} {sentence : Sentence} :
    excerpt.readSentence = .ok sentence ↔ ∃ layout : Layout, layout.text = excerpt.text ∧
      sentence = .ofTerms (layout.words.map (·.1.term)) := by
  rw [readSentence, map_eq_ok_iff]
  apply Iff.intro
  · intro h
    obtain ⟨terms, hterms, rfl⟩ := h
    obtain ⟨layout, htext, rfl⟩ := readTerms_sound hterms
    exact ⟨layout, htext, congrArg Sentence.ofTerms (placed_nodes _ _)⟩
  · intro h
    obtain ⟨layout, htext, rfl⟩ := h
    exact ⟨_, readTerms_layout htext, congrArg Sentence.ofTerms (placed_nodes _ _)⟩

end Excerpt

end FreeOrder
