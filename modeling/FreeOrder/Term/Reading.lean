import FreeOrder.SyntaxError
import FreeOrder.Term
import FreeOrder.Text.Blank

namespace FreeOrder

/-- A fault in a term, with the faulty text. That text begins where the term does. -/
structure TermFault where
  fault : SyntaxFault
  fragment : List Char

namespace Term

/-- The characters that the name of a verb consists of. -/
def isNameChar (c : Char) : Bool :=
  !isBlank c && c != '(' && c != ')'

/-- The characters that a role marker consists of. -/
def isMarkerChar (c : Char) : Bool :=
  isNameChar c && c != '"'

/-- The text up to its first blank. -/
def chunk (text : List Char) : List Char :=
  text.takeWhile fun c => !isBlank c

/-- A term read off the front of a text: the characters that spell it, and those after it. -/
structure Reading where
  term : Term
  spelling : List Char
  rest : List Char

/-- Reads the name of a verb and the parenthesis that closes it, after the opening of its term. -/
def readVerb (opening text : List Char) : Except TermFault Reading :=
  let name := text.takeWhile isNameChar
  match text.dropWhile isNameChar with
  | ')' :: rest =>
    let spelling := opening ++ name ++ [')']
    if name.isEmpty then .error ⟨.noVerbName, spelling⟩
    else .ok ⟨.verb (String.ofList name), spelling, rest⟩
  | '(' :: _ => .error ⟨.openingInVerbName, opening ++ name ++ ['(']⟩
  | _ => .error ⟨.unclosedVerbName, opening ++ name⟩

/-- Reads a quoted literal and the parenthesis that closes it, after the opening of its term. -/
def readDirectObject (opening text : List Char) : Except TermFault Reading :=
  match text with
  | '"' :: body =>
    let content := body.takeWhile (· != '"')
    match body.dropWhile (· != '"') with
    | [] => .error ⟨.unclosedLiteral, opening ++ text⟩
    | quote :: after =>
      let literal := '"' :: content ++ [quote]
      match after with
      | ')' :: rest =>
        .ok ⟨.directObject (String.ofList literal), opening ++ literal ++ [')'], rest⟩
      | _ => .error ⟨.noClosingAfterLiteral, opening ++ literal ++ chunk after⟩
  | _ => .error ⟨.noQuote, chunk (opening ++ text)⟩

/-- Reads the term that the text begins with. -/
def read (text : List Char) : Except TermFault Reading :=
  let marker := text.takeWhile isMarkerChar
  if marker.isEmpty then .error ⟨.noMarker, chunk text⟩
  else
    match Role.ofMarker? (String.ofList marker) with
    | none => .error ⟨.unknownMarker (String.ofList marker), marker⟩
    | some role =>
      match text.dropWhile isMarkerChar with
      | '(' :: body =>
        match role with
        | .verb => readVerb (marker ++ ['(']) body
        | .directObject => readDirectObject (marker ++ ['(']) body
      | _ => .error ⟨.noOpening (String.ofList marker), chunk text⟩

theorem readVerb_ok {opening text : List Char} {reading : Reading}
    (h : readVerb opening text = .ok reading) :
    ∃ body, reading.spelling = opening ++ body ∧ text = body ++ reading.rest := by
  unfold readVerb at h
  have hsplit := List.takeWhile_append_dropWhile (p := isNameChar) (l := text)
  dsimp only at h
  split at h
  · rename_i rest hrest
    split at h
    · cases h
    · cases h
      rw [hrest] at hsplit
      exact ⟨text.takeWhile isNameChar ++ [')'], by simp, by simpa using hsplit.symm⟩
  · cases h
  · cases h

theorem readDirectObject_ok {opening text : List Char} {reading : Reading}
    (h : readDirectObject opening text = .ok reading) :
    ∃ body, reading.spelling = opening ++ body ∧ text = body ++ reading.rest := by
  unfold readDirectObject at h
  split at h
  · rename_i body
    have hsplit := List.takeWhile_append_dropWhile (p := (· != '"')) (l := body)
    dsimp only at h
    split at h
    · cases h
    · rename_i quote after hafter
      split at h
      · cases h
        rw [hafter] at hsplit
        exact ⟨'"' :: body.takeWhile (· != '"') ++ [quote, ')'], by simp,
          by simpa using hsplit.symm⟩
      · cases h
  · cases h

/-- The spelling of a term, which is never empty, and what follows it make up the text. -/
theorem read_ok {text : List Char} {reading : Reading} (h : read text = .ok reading) :
    text = reading.spelling ++ reading.rest ∧ reading.spelling ≠ [] := by
  unfold read at h
  have hsplit := List.takeWhile_append_dropWhile (p := isMarkerChar) (l := text)
  dsimp only at h
  split at h
  · cases h
  split at h
  · cases h
  split at h
  · rename_i body hbody
    rw [hbody] at hsplit
    suffices hbodyRead : ∃ more, reading.spelling = text.takeWhile isMarkerChar ++ ['('] ++ more ∧
        body = more ++ reading.rest by
      obtain ⟨more, hspelling, hmore⟩ := hbodyRead
      rw [hmore] at hsplit
      rw [hspelling]
      exact ⟨by simpa using hsplit.symm, by simp⟩
    split at h
    · exact readVerb_ok h
    · exact readDirectObject_ok h
  · cases h

theorem rest_length_lt {text : List Char} {reading : Reading} (h : read text = .ok reading) :
    reading.rest.length < text.length := by
  obtain ⟨hsplit, hne⟩ := read_ok h
  have hpos := List.length_pos_iff.mpr hne
  have hlength := congrArg List.length hsplit
  rw [List.length_append] at hlength
  omega

end Term

end FreeOrder
