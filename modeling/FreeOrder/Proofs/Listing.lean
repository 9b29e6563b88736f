import FreeOrder.Proofs.SentenceReading

namespace FreeOrder

/-- The excerpt is made up of words for the terms and of blanks. It is blank if there are none. -/
def Excerpt.Lists (excerpt : Excerpt) (terms : List (Located Term)) : Prop :=
  ∃ lead words, Text.IsBlank lead ∧ IsTail words ∧ excerpt.text = lead ++ spell words ∧
    terms = placed (excerpt.offset + Text.byteLength lead) words

theorem Excerpt.lists_of_isBlank {excerpt : Excerpt} (h : Text.IsBlank excerpt.text) :
    excerpt.Lists [] :=
  ⟨excerpt.text, [], h, .inl rfl, (List.append_nil _).symm, rfl⟩

theorem Excerpt.lists_of_readTerms {excerpt : Excerpt} {terms : List (Located Term)}
    (h : excerpt.readTerms = .ok terms) : excerpt.Lists terms := by
  obtain ⟨layout, htext, hterms⟩ := readTerms_sound h
  exact ⟨layout.lead, layout.words, layout.lead_blank, .inr layout.spaced, htext.symm, hterms⟩

/-- An excerpt that lists terms is blank, or it can be read as a sentence. -/
theorem Excerpt.lists_iff {excerpt : Excerpt} {terms : List (Located Term)} :
    excerpt.Lists terms ↔
      Text.IsBlank excerpt.text ∧ terms = [] ∨ excerpt.readTerms = .ok terms := by
  constructor
  · rintro ⟨lead, words, hlead, rfl | hwords, htext, rfl⟩
    · rw [spell_nil, List.append_nil] at htext
      exact .inl ⟨htext ▸ hlead, rfl⟩
    · let layout : Layout := ⟨lead, words, hlead, hwords⟩
      have hlayout : layout.text = excerpt.text := htext.symm
      exact .inr (readTerms_layout hlayout)
  · rintro (⟨hblank, rfl⟩ | hread)
    · exact lists_of_isBlank hblank
    · exact lists_of_readTerms hread

theorem IsTail.cons {word : Word} {gap : List Char} {words : List (Word × List Char)}
    (h : IsTail words) (hgap : Text.IsBlank gap) (hne : gap ≠ [] ∨ words = []) :
    IsSpaced ((word, gap) :: words) := by
  rcases h with rfl | h
  · exact .last hgap
  · rcases hne with hne | rfl
    · exact .cons hgap hne h
    · cases h

theorem IsTail.eq_nil_of_spell {words : List (Word × List Char)} (h : IsTail words)
    (hspell : spell words = []) : words = [] := by
  rcases h with rfl | h
  · rfl
  · exact (h.spell_ne_nil hspell).elim

section Joining

variable {words others : List (Word × List Char)} {gap : List Char}

/-- Words, then blanks and then other words are one run of words. -/
theorem IsSpaced.exists_join (h : IsSpaced words) (hgap : Text.IsBlank gap) (hothers : IsTail others)
    (hne : gap ≠ [] ∨ others = []) : ∃ joined, IsSpaced joined ∧
      spell joined = spell words ++ (gap ++ spell others) ∧ ∀ position, placed position joined =
        placed position words ++
          placed (position + Text.byteLength (spell words) + Text.byteLength gap) others := by
  induction h with
  | @last word after hafter =>
    have hgap' : Text.IsBlank (after ++ gap) := List.forall_mem_append.mpr ⟨hafter, hgap⟩
    have hne' : after ++ gap ≠ [] ∨ others = [] :=
      hne.imp_left fun hgap hnil => hgap (List.append_eq_nil_iff.mp hnil).2
    refine ⟨(word, after ++ gap) :: others, hothers.cons hgap' hne', ?_, ?_⟩
    · simp
    · intro position
      simp [placed_cons, Nat.add_assoc]
  | @cons word after words hafter hne' _ ih =>
    obtain ⟨joined, hjoined, hspell, hplaced⟩ := ih
    refine ⟨(word, after) :: joined, .cons hafter hne' hjoined, ?_, ?_⟩
    · simp [hspell]
    · intro position
      simp [placed_cons, hplaced, Nat.add_assoc]

end Joining

section Splitting

variable {words : List (Word × List Char)} {gap front back : List Char} {c : Char}

end Splitting

namespace Excerpt

variable {front gap back : List Char} {source offset : Nat} {terms others : List (Located Term)}

/-- Where two excerpts stand one after the other with blanks between them, so do their terms. -/
theorem Lists.append (hfront : Lists ⟨front, source, offset⟩ terms) (hgap : Text.IsBlank gap)
    (hback : Lists ⟨back, source, offset + Text.byteLength front + Text.byteLength gap⟩ others)
    (hne : gap ≠ [] ∨ back = []) :
    Lists ⟨front ++ (gap ++ back), source, offset⟩ (terms ++ others) := by
  obtain ⟨lead, words, hlead, hwords, rfl, rfl⟩ := hfront
  obtain ⟨lead', words', hlead', hwords', rfl, rfl⟩ := hback
  have hgap' : Text.IsBlank (gap ++ lead') := List.forall_mem_append.mpr ⟨hgap, hlead'⟩
  rcases hwords with rfl | hwords
  · refine ⟨lead ++ (gap ++ lead'), words', List.forall_mem_append.mpr ⟨hlead, hgap'⟩, hwords',
      ?_, ?_⟩
    · simp
    · simp [Nat.add_assoc]
  · have hne' : gap ++ lead' ≠ [] ∨ words' = [] := by
      rcases hne with hne | hnil
      · exact .inl fun hnil => hne (List.append_eq_nil_iff.mp hnil).1
      · exact .inr (hwords'.eq_nil_of_spell (List.append_eq_nil_iff.mp hnil).2)
    obtain ⟨joined, hjoined, hspell, hplaced⟩ := hwords.exists_join hgap' hwords' hne'
    refine ⟨lead, joined, hlead, .inr hjoined, ?_, ?_⟩
    · simp [hspell]
    · simp [hplaced, Nat.add_assoc]

end Excerpt

end FreeOrder
