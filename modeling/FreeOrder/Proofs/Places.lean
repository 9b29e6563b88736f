import FreeOrder.Excerpt
import FreeOrder.Proofs.SentenceReading

namespace FreeOrder

structure Span.Within (inner outer : Span) : Prop where
  start_le : outer.start ≤ inner.start
  start_le_stop : inner.start ≤ inner.stop
  stop_le : inner.stop ≤ outer.stop

namespace Excerpt

/-- The excerpt has the text at the range, which starts and stops between two characters. -/
def Holds (excerpt : Excerpt) (span : Span) (text : List Char) : Prop :=
  ∃ front back, excerpt.text = front ++ (text ++ back) ∧
    span = .ofText (excerpt.offset + Text.byteLength front) text

variable {excerpt : Excerpt} {span inner : Span} {text part front back : List Char}

theorem Holds.within (h : excerpt.Holds span text) : span.Within excerpt.span := by
  obtain ⟨front, back, htext, rfl⟩ := h
  have hlength : Text.byteLength excerpt.text =
      Text.byteLength front + (Text.byteLength text + Text.byteLength back) := by
    rw [htext, Text.byteLength_append, Text.byteLength_append]
  constructor
  · exact Nat.le_add_right _ _
  · exact Nat.le_add_right _ _
  · change _ ≤ excerpt.offset + Text.byteLength excerpt.text
    change excerpt.offset + Text.byteLength front + Text.byteLength text ≤ _
    omega

theorem holds_self (excerpt : Excerpt) : excerpt.Holds excerpt.span excerpt.text :=
  ⟨[], [], by rw [List.append_nil, List.nil_append], rfl⟩

theorem holds_front (h : excerpt.text = front ++ back) :
    excerpt.Holds (.ofText excerpt.offset front) front :=
  ⟨[], back, h, rfl⟩

theorem holds_back (h : excerpt.text = front ++ back) :
    excerpt.Holds (.ofText (excerpt.offset + Text.byteLength front) back) back :=
  ⟨front, [], by rw [List.append_nil, h], rfl⟩

/-- What a part of an excerpt has at a range, the excerpt has there too. -/
theorem Holds.trans {source : Nat} (h : excerpt.Holds span text)
    (hpart : Holds ⟨text, source, span.start⟩ inner part) : excerpt.Holds inner part := by
  obtain ⟨front, back, htext, rfl⟩ := h
  obtain ⟨before, after, rfl, rfl⟩ := hpart
  refine ⟨front ++ before, after ++ back, by simp [htext], ?_⟩
  rw [Text.byteLength_append, ← Nat.add_assoc]
  rfl

end Excerpt

theorem holds_of_mem_placed {words : List (Word × List Char)} {position : Nat}
    {term : Located Term} (h : term ∈ placed position words) (source : Nat) : ∃ word : Word,
      term = word.located term.span.start ∧
        Excerpt.Holds ⟨spell words, source, position⟩ term.span word.text := by
  induction words generalizing position with
  | nil => cases h
  | cons pair words ih =>
    obtain ⟨word, gap⟩ := pair
    rw [placed_cons] at h
    rw [spell_cons]
    rcases List.mem_cons.mp h with rfl | h
    · exact ⟨word, rfl, Excerpt.holds_front rfl⟩
    · obtain ⟨found, hterm, hholds⟩ := ih h
      have hrest : Excerpt.Holds ⟨word.text ++ (gap ++ spell words), source, position⟩
          (.ofText (position + Text.byteLength word.text + Text.byteLength gap) (spell words))
          (spell words) := by
        rw [Nat.add_assoc, ← Text.byteLength_append]
        exact Excerpt.holds_back (List.append_assoc _ _ _).symm
      exact ⟨found, hterm, hrest.trans hholds⟩

namespace Excerpt

variable {excerpt : Excerpt} {terms : List (Located Term)} {term : Located Term}

/-- A term that was read stands in the excerpt where it is located, as some word. -/
theorem holds_of_mem_terms (h : excerpt.readTerms = .ok terms) (hmem : term ∈ terms) :
    ∃ word : Word, term = word.located term.span.start ∧ excerpt.Holds term.span word.text := by
  obtain ⟨layout, htext, rfl⟩ := readTerms_sound h
  obtain ⟨word, hterm, hholds⟩ := holds_of_mem_placed hmem excerpt.source
  exact ⟨word, hterm, (holds_back htext.symm).trans hholds⟩

theorem isWritable_of_mem_terms {node : Term} (h : excerpt.readTerms = .ok terms)
    (hmem : node ∈ terms.map (·.node)) : node.IsWritable := by
  obtain ⟨located, hlocated, rfl⟩ := List.mem_map.mp hmem
  obtain ⟨word, hterm, _⟩ := holds_of_mem_terms h hlocated
  rw [hterm]
  exact word.writable

/-- A word by itself is read as a sentence of one term. -/
theorem readTerms_word (word : Word) (source position : Nat) :
    readTerms ⟨word.text, source, position⟩ = .ok [word.located position] := by
  have hblank : Text.IsBlank [] := List.forall_mem_nil _
  let layout : Layout := ⟨[], [(word, [])], hblank, .last hblank⟩
  have htext : layout.text = Excerpt.text ⟨word.text, source, position⟩ := by
    change [] ++ spell [(word, [])] = word.text
    rw [spell_cons, spell_nil, List.append_nil, List.append_nil, List.nil_append]
  exact readTerms_layout htext

end Excerpt

end FreeOrder
