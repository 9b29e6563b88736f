import FreeOrder.Excerpt
import FreeOrder.Sentence
import FreeOrder.Term.Reading

namespace FreeOrder

/-- Where the reading of a sentence stands after a term: at its end, or at its next term. -/
inductive Progress
  | finished (term : Located Term)
  | next (term : Located Term) (position : Nat) (text : List Char)

namespace Term

/-- Reads the term at the position in the source, and the blanks between it and what comes next. -/
def readOne (source position : Nat) (text : List Char) : Except SyntaxError Progress :=
  match read text with
  | .error flaw => .error ⟨flaw.fault, String.ofList flaw.fragment, position, source⟩
  | .ok reading =>
    let term : Located Term := ⟨reading.term, .ofText position reading.spelling⟩
    let gap := reading.rest.takeWhile isBlank
    let nextPosition := term.span.stop + Text.byteLength gap
    match reading.rest.dropWhile isBlank with
    | [] => .ok (.finished term)
    | c :: rest =>
      if c = ')' then .error ⟨.strayClosing, ")", nextPosition, source⟩
      else if gap.isEmpty then
        .error ⟨.noGap, String.ofList (chunk (c :: rest)), nextPosition, source⟩
      else .ok (.next term nextPosition (c :: rest))

theorem length_lt_of_readOne {source position nextPosition : Nat} {text rest : List Char}
    {term : Located Term} (h : readOne source position text = .ok (.next term nextPosition rest)) :
    rest.length < text.length := by
  unfold readOne at h
  split at h
  · cases h
  · rename_i reading hread
    dsimp only at h
    split at h
    · cases h
    · rename_i c more hrest
      split at h
      · cases h
      split at h
      · cases h
      · cases h
        rw [← hrest]
        exact Nat.lt_of_le_of_lt (List.dropWhile_suffix isBlank).length_le (rest_length_lt hread)

/-- Reads terms to the end of a text that begins with a term at the position in the source. -/
def readAll (source position : Nat) (text : List Char) :
    Except SyntaxError (List (Located Term)) :=
  match _ : readOne source position text with
  | .error error => .error error
  | .ok (.finished term) => .ok [term]
  | .ok (.next term position rest) => (readAll source position rest).map (term :: ·)
termination_by text.length
decreasing_by exact length_lt_of_readOne ‹_›

end Term

namespace Excerpt

/-- Reads the excerpt as one sentence: terms in any order, with blanks between them. Its positions
are natural numbers; `scanTerms` is this reader with sums of 64 bits. -/
def readTerms (excerpt : Excerpt) : Except SyntaxError (List (Located Term)) :=
  let position := excerpt.offset + Text.byteLength (excerpt.text.takeWhile isBlank)
  match excerpt.text.dropWhile isBlank with
  | [] => .error ⟨.noTerm, "", position, excerpt.source⟩
  | c :: rest => Term.readAll excerpt.source position (c :: rest)

/-- Reads the excerpt as one sentence and forgets where the terms stand. -/
def readSentence (excerpt : Excerpt) : Except SyntaxError Sentence :=
  excerpt.readTerms.map fun terms => .ofTerms (terms.map (·.node))

end Excerpt

end FreeOrder
