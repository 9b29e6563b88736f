import FreeOrder.Proofs.Listing

namespace FreeOrder

namespace Text

variable {text front other : List Char}

theorem eq_nil_of_byteLength (h : byteLength text = 0) : text = [] := by
  cases text with
  | nil => rfl
  | cons c rest =>
    rw [byteLength_cons] at h
    have hpos := c.utf8Size_pos
    omega

/-- Of two beginnings of a text, the one with no more bytes is a beginning of the other. -/
theorem prefix_of_byteLength_le (hother : other <+: text) (hfront : front <+: text)
    (h : byteLength other ≤ byteLength front) : other <+: front := by
  rcases List.prefix_or_prefix_of_prefix hother hfront with hbegins | ⟨more, rfl⟩
  · exact hbegins
  · rw [byteLength_append] at h
    have hmore : more = [] := eq_nil_of_byteLength (by omega)
    simp [hmore]

end Text

namespace Term

variable {source position : Nat} {text back gap : List Char} {words : List (Word × List Char)}
  {error : SyntaxError}

/-- What a step finds wrong after a word, it finds behind the blanks there. -/
theorem readOne_word_error {word : Word}
    (h : readOne source position (word.text ++ back) = .error error) :
    error.start = position + Text.byteLength word.text +
      Text.byteLength (back.takeWhile isBlank) := by
  simp only [readOne, read_word] at h
  split at h
  · cases h
  split at h
  · cases h
    rfl
  split at h
  · cases h
    rfl
  · cases h

theorem readOne_word_next {word : Word} {term : Located Term} {next : Nat} {rest : List Char}
    (h : readOne source position (word.text ++ back) = .ok (.next term next rest)) :
    next = position + Text.byteLength word.text + Text.byteLength (back.takeWhile isBlank) := by
  simp only [readOne, read_word] at h
  split at h
  · cases h
  split at h
  · cases h
  split at h
  · cases h
  · cases h
    rfl

/-- Where a step fails, the words and blanks that it has passed end. -/
theorem readOne_error_start (h : readOne source position text = .error error) :
    ∃ words back, IsTail words ∧ text = spell words ++ back ∧
      error.start = position + Text.byteLength (spell words) := by
  cases hread : read text with
  | error flaw =>
    simp only [readOne, hread] at h
    cases h
    exact ⟨[], text, .inl rfl, rfl, rfl⟩
  | ok reading =>
    obtain ⟨word, htext, _, _⟩ := read_sound hread
    rw [htext] at h ⊢
    have hsplit := List.takeWhile_append_dropWhile (p := isBlank) (l := reading.rest)
    refine ⟨[(word, reading.rest.takeWhile isBlank)], reading.rest.dropWhile isBlank,
      .inr (.last (Text.isBlank_takeWhile _)), ?_, ?_⟩
    · simp [hsplit]
    · rw [readOne_word_error h]
      simp [Nat.add_assoc]

theorem readAll_error_start (h : readAll source position text = .error error) :
    ∃ words back, IsTail words ∧ text = spell words ++ back ∧
      error.start = position + Text.byteLength (spell words) := by
  fun_induction readAll source position text with
  | case1 position text found hone =>
    cases h
    exact readOne_error_start hone
  | case2 position text term hone => cases h
  | case3 position text term next rest hone ih =>
    obtain ⟨word, gap, hgap, hne, rfl, _, rfl⟩ := readOne_sound hone
    obtain ⟨words, back, hwords, rfl, hstart⟩ := ih (map_eq_error_iff.mp h)
    refine ⟨(word, gap) :: words, back, .inr (hwords.cons hgap (.inl hne)), ?_, ?_⟩
    · simp
    · rw [hstart]
      simp [Nat.add_assoc]

/-- No error is found before the end of the blanks that follow the first word. -/
theorem le_start_of_word {word : Word} (hgap : Text.IsBlank gap)
    (h : readAll source position (word.text ++ (gap ++ back)) = .error error) :
    position + Text.byteLength word.text + Text.byteLength gap ≤ error.start := by
  have hblanks : Text.byteLength gap ≤ Text.byteLength ((gap ++ back).takeWhile isBlank) := by
    rw [List.takeWhile_append_of_pos hgap, Text.byteLength_append]
    exact Nat.le_add_right _ _
  cases hone : readOne source position (word.text ++ (gap ++ back)) with
  | error found =>
    rw [readAll_of_error hone] at h
    cases h
    have hstart := readOne_word_error hone
    omega
  | ok progress =>
    cases progress with
    | finished term =>
      rw [readAll_of_finished hone] at h
      cases h
    | next term next rest =>
      rw [readAll_of_next hone] at h
      obtain ⟨_, _, _, _, hstart⟩ := readAll_error_start (map_eq_error_iff.mp h)
      have hnext := readOne_word_next hone
      omega

/-- No error is found before the end of words that the text begins with. -/
theorem le_start_of_spell (hwords : IsSpaced words)
    (h : readAll source position (spell words ++ back) = .error error) :
    position + Text.byteLength (spell words) ≤ error.start := by
  induction hwords generalizing position with
  | @last word gap hgap =>
    rw [spell_cons, spell_nil, List.append_nil, List.append_assoc] at h
    have hstart := le_start_of_word hgap h
    simpa [Nat.add_assoc] using hstart
  | @cons word gap words hgap hne hwords ih =>
    obtain ⟨c, rest, he, hc⟩ := hwords.spell_eq_cons
    rw [spell_cons, List.append_assoc, List.append_assoc, he, List.cons_append,
      readAll_of_next (readOne_next word hgap hne hc _), ← List.cons_append, ← he] at h
    have hstart := ih (map_eq_error_iff.mp h)
    simpa [Nat.add_assoc] using hstart

end Term

namespace Excerpt

variable {excerpt : Excerpt} {error : SyntaxError} {front other : List Char}

/-- The excerpt begins with the text, which is blank or can be read as a sentence by itself. -/
structure BeginsWith (excerpt : Excerpt) (front : List Char) : Prop where
  isPrefix : front <+: excerpt.text
  readable : Text.IsBlank front ∨ ∃ terms, readTerms { excerpt with text := front } = .ok terms

theorem beginsWith_iff : excerpt.BeginsWith front ↔
    front <+: excerpt.text ∧ ∃ terms, Lists { excerpt with text := front } terms := by
  constructor
  · rintro ⟨hbegins, hblank | ⟨terms, hread⟩⟩
    · exact ⟨hbegins, [], lists_of_isBlank hblank⟩
    · exact ⟨hbegins, terms, lists_of_readTerms hread⟩
  · rintro ⟨hbegins, terms, hlists⟩
    rcases lists_iff.mp hlists with ⟨hblank, _⟩ | hread
    · exact ⟨hbegins, .inl hblank⟩
    · exact ⟨hbegins, .inr ⟨terms, hread⟩⟩

theorem exists_beginsWith_of_error (h : excerpt.readTerms = .error error) :
    ∃ front, excerpt.BeginsWith front ∧
      error.start = excerpt.offset + Text.byteLength front := by
  have hlead := Text.isBlank_takeWhile excerpt.text
  simp only [readTerms] at h
  split at h
  · cases h
    exact ⟨_, ⟨List.takeWhile_prefix _, .inl hlead⟩, rfl⟩
  · rename_i c rest hrest
    obtain ⟨words, back, hwords, hsplit, hstart⟩ := Term.readAll_error_start h
    have htext := eq_run_append hrest
    rw [hsplit, ← List.append_assoc] at htext
    refine ⟨excerpt.text.takeWhile isBlank ++ spell words,
      beginsWith_iff.mpr ⟨⟨back, htext.symm⟩, _, ⟨_, words, hlead, hwords, rfl, rfl⟩⟩, ?_⟩
    rw [hstart, Text.byteLength_append, Nat.add_assoc]

theorem le_start_of_error (h : excerpt.readTerms = .error error) :
    excerpt.offset + Text.byteLength (excerpt.text.takeWhile isBlank) ≤ error.start := by
  simp only [readTerms] at h
  split at h
  · cases h
    exact Nat.le_refl _
  · obtain ⟨_, _, _, _, hstart⟩ := Term.readAll_error_start h
    omega

theorem BeginsWith.le_start (hother : excerpt.BeginsWith other)
    (h : excerpt.readTerms = .error error) :
    excerpt.offset + Text.byteLength other ≤ error.start := by
  obtain ⟨⟨back, hback⟩, _, lead, words, hlead, hwords, rfl, _⟩ := beginsWith_iff.mp hother
  rw [List.append_assoc] at hback
  rcases hwords with rfl | hwords
  · have hstart := le_start_of_error h
    rw [← hback, List.takeWhile_append_of_pos hlead, Text.byteLength_append] at hstart
    rw [spell_nil, List.append_nil]
    omega
  · obtain ⟨c, rest, he, hc⟩ := hwords.spell_eq_cons
    have hblank := Term.isBlank_of_isMarkerChar hc
    rw [he, List.cons_append] at hback
    simp only [readTerms, ← hback, takeWhile_run hlead hblank, dropWhile_run hlead hblank] at h
    rw [← List.cons_append, ← he] at h
    have hstart := Term.le_start_of_spell hwords h
    rw [Text.byteLength_append]
    omega

/-- A text that is not a sentence is wrong where its longest beginning ends that is one, or that is
blank: the error is found right there. -/
theorem readTerms_error_leftmost (h : excerpt.readTerms = .error error) :
    ∃ front, excerpt.BeginsWith front ∧ (∀ other, excerpt.BeginsWith other → other <+: front) ∧
      error.span.start = excerpt.offset + Text.byteLength front := by
  obtain ⟨front, hfront, hstart⟩ := exists_beginsWith_of_error h
  refine ⟨front, hfront, ?_, hstart⟩
  intro other hother
  have hle := hother.le_start h
  exact Text.prefix_of_byteLength_le hother.isPrefix hfront.isPrefix (by omega)

theorem readTerms_error_leftmost_nested :
    let excerpt : Excerpt := ⟨" v(é)\n o(\"a)\") verb(pr(int) v(x)".toList, 3, 7⟩
    excerpt.readTerms = .error ⟨.openingInVerbName, "verb(pr(", 23, 3⟩ ∧
      excerpt.BeginsWith " v(é)\n o(\"a)\") ".toList ∧
      ∀ other, excerpt.BeginsWith other → other <+: " v(é)\n o(\"a)\") ".toList := by
  intro excerpt
  have hread : excerpt.readTerms = .error ⟨.openingInVerbName, "verb(pr(", 23, 3⟩ := by
    decide +kernel
  have hbegins : " v(é)\n o(\"a)\") ".toList <+: excerpt.text :=
    ⟨"verb(pr(int) v(x)".toList, by decide⟩
  obtain ⟨front, hfront, hlongest, hstart⟩ := readTerms_error_leftmost hread
  have hbytes : Text.byteLength front = Text.byteLength " v(é)\n o(\"a)\") ".toList := by
    change 23 = 7 + Text.byteLength front at hstart
    change Text.byteLength front = 16
    omega
  have hle := Text.prefix_of_byteLength_le hfront.isPrefix hbegins hbytes.le
  have hge := Text.prefix_of_byteLength_le hbegins hfront.isPrefix hbytes.ge
  have heq : front = " v(é)\n o(\"a)\") ".toList :=
    hle.eq_of_length (Nat.le_antisymm hle.length_le hge.length_le)
  exact ⟨hread, heq ▸ hfront, heq ▸ hlongest⟩

end Excerpt

end FreeOrder
