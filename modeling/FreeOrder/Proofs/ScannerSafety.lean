import FreeOrder.Proofs.ErrorPlaces
import FreeOrder.Proofs.FirstFault
import FreeOrder.Proofs.ScannerRules

namespace FreeOrder

namespace Term

variable {text marker body : List Char} {role : Role}

theorem read_of_opening (hmarker : text.takeWhile isMarkerChar = marker) (hne : marker ≠ [])
    (hrole : Role.ofMarker? (String.ofList marker) = some role)
    (hrest : text.dropWhile isMarkerChar = '(' :: body) :
    read text = match role with
      | .verb => readVerb (marker ++ ['(']) body
      | .directObject => readDirectObject (marker ++ ['(']) body := by
  simp only [read, hmarker, List.isEmpty_iff, if_neg hne, hrole, hrest]
  cases role <;> rfl

theorem read_of_no_opening (hmarker : text.takeWhile isMarkerChar = marker) (hne : marker ≠ [])
    (hrole : Role.ofMarker? (String.ofList marker) = some role)
    (hrest : (text.dropWhile isMarkerChar).head? ≠ some '(') :
    read text = .error ⟨.noOpening (String.ofList marker), chunk text⟩ := by
  simp only [read, hmarker, List.isEmpty_iff, if_neg hne, hrole]
  split
  · rename_i hopening
    rw [hopening] at hrest
    exact (hrest rfl).elim
  · rfl

theorem readDirectObject_of_no_quote {opening : List Char} (h : text.head? ≠ some '"') :
    readDirectObject opening text = .error ⟨.noQuote, chunk (opening ++ text)⟩ := by
  unfold readDirectObject
  split
  · exact (h rfl).elim
  · rfl

end Term

namespace Scan

open Term (isMarkerChar isNameChar)

variable {excerpt : Excerpt} {front back before opening : List Char}

/-- What a scan of the term that comes after the text amounts to, by what is read there. -/
def termOutcome (excerpt : Excerpt) (before : List Char) :
    Except TermFault Term.Reading → Outcome Term
  | .ok reading => .ok (reading.term, before ++ reading.spelling)
  | .error flaw => .ofError (excerpt.errorAfter before flaw.fault flaw.fragment)

def locatedOutcome (excerpt : Excerpt) (front : List Char) :
    Except TermFault Term.Reading → Outcome (Located Term)
  | .ok reading =>
    let span := Span.ofText (excerpt.offset + Text.byteLength front) reading.spelling
    .given (span.stop < UInt64.size) (.ok (⟨reading.term, span⟩, front ++ reading.spelling))
  | .error flaw => .ofError (excerpt.errorAfter front flaw.fault flaw.fragment)

/-- A turn of the scan after the text goes along with one step of the reading there. -/
def TurnFollows (excerpt : Excerpt) (front : List Char) : Except SyntaxError Progress → Prop
  | .error error => Does excerpt front turn (.ofError error)
  | .ok (.finished term) =>
    Does excerpt front turn
      (.given (term.span.stop < UInt64.size) (.ok ((term, false), excerpt.text)))
  | .ok (.next term position rest) => ∃ front',
      Does excerpt front turn
        (.given (term.span.stop < UInt64.size) (.ok ((term, true), front'))) ∧
      Text.byteLength front < Text.byteLength front' ∧ term.span.stop ≤ position ∧
      position = excerpt.offset + Text.byteLength front' ∧
      excerpt.text = front' ++ rest ∧ ∀ c ∈ rest.head?, isBlank c = false

/-- What the turns of a scan amount to after some terms have been scanned. -/
def turnsOutcome (excerpt : Excerpt) (before : List (Located Term)) :
    Except SyntaxError (List (Located Term)) → Outcome (List (Located Term))
  | .ok terms =>
    .given (∀ term ∈ terms, term.span.stop < UInt64.size) (.ok (before ++ terms, excerpt.text))
  | .error error => .ofError error

def unmarked (text : List Char) : List Char :=
  if Term.chunk text = [] then text.take 1 else Term.chunk text

theorem unmarked_isPrefix (text : List Char) : unmarked text <+: text := by
  rw [unmarked]
  split
  · exact List.take_prefix 1 text
  · exact List.takeWhile_prefix _

theorem unmarked_of_not_isBlank (h : ∀ c ∈ back.head?, isBlank c = false) :
    unmarked back = Term.chunk back := by
  cases back with
  | nil => rfl
  | cons c rest =>
    have hc : isBlank c = false := h c rfl
    simp [unmarked, Term.chunk, hc]

theorem byteLength_unmarked (text : List Char) : Text.byteLength (unmarked text) =
    max (Text.byteLength (Term.chunk text)) ((text.head?.map Char.utf8Size).getD 0) := by
  cases text with
  | nil => rfl
  | cons c rest =>
    cases hc : isBlank c with
    | true => simp [unmarked, Term.chunk, hc]
    | false => simp [unmarked, Term.chunk, hc]

section TurnEnd

variable {c : Char} {rest : List Char}

theorem does_turnEnd_finished (term : Located Term) (separated : Bool) :
    Does excerpt excerpt.text (turnEnd term separated) (.ok ((term, false), excerpt.text)) := by
  refine does_atEnd.bind ?_
  rw [if_pos (decide_eq_true (Nat.le_refl _))]
  exact does_pure _

theorem does_turnEnd_closing (hbytes : Text.byteLength excerpt.text < UInt64.size)
    (term : Located Term) (separated : Bool) (h : excerpt.text = front ++ ')' :: rest) :
    Does excerpt front (turnEnd term separated)
      (.ofError (excerpt.errorAfter front .strayClosing [')'])) := by
  have hsplit : excerpt.text = front ++ ([')'] ++ rest) := h
  have hsize : ')'.utf8Size = 1 := by decide
  refine (does_atEnd_of_cons h).bind ((does_peek h).bind ?_)
  refine does_position.bind (does_position.bind ((does_addByte hbytes h hsize).bind ?_))
  exact does_report _ hsplit (by simp [hsize])

theorem does_turnEnd_joined (hbytes : Text.byteLength excerpt.text < UInt64.size)
    (term : Located Term) (h : excerpt.text = front ++ c :: rest) (hc : c ≠ ')') :
    Does excerpt front (turnEnd term false)
      (.ofError (excerpt.errorAfter front .noGap (Term.chunk (c :: rest)))) := by
  refine (does_atEnd_of_cons h).bind ((does_peek h).bind ?_)
  rw [List.head?_cons, if_neg (by simpa using hc)]
  exact does_position.bind (does_position.bind (does_report_chunk hbytes _ h))

theorem does_turnEnd_next (term : Located Term) (h : excerpt.text = front ++ c :: rest)
    (hc : c ≠ ')') : Does excerpt front (turnEnd term true) (.ok ((term, true), front)) := by
  refine (does_atEnd_of_cons h).bind ((does_peek h).bind ?_)
  rw [List.head?_cons, if_neg (by simpa using hc)]
  exact does_pure _

end TurnEnd

/-- What is read for a term is found between the places where its scan begins and ends. -/
theorem Does.located {scan : Scan Term}
    (hscan : Does excerpt before scan (termOutcome excerpt front (Term.read back))) :
    Does excerpt before
      (scan >>= fun term => do return ⟨term, ← span (Text.byteLength front) (← position)⟩)
      (locatedOutcome excerpt front (Term.read back)) := by
  cases hread : Term.read back with
  | error flaw =>
    rw [hread] at hscan
    exact hscan.bind_ofError
  | ok reading =>
    rw [hread] at hscan
    refine hscan.bind (does_position.bind ?_)
    rw [Text.byteLength_append]
    exact (does_span front reading.spelling).bind_given (does_pure _)

section Bounded

variable (hbytes : Text.byteLength excerpt.text < UInt64.size)
include hbytes

theorem does_verbName (h : excerpt.text = before ++ (opening ++ back)) :
    Does excerpt (before ++ opening) (verbName (Text.byteLength before))
      (termOutcome excerpt before (Term.readVerb opening back)) := by
  have hopening : excerpt.text = before ++ opening ++ back := by rw [List.append_assoc, h]
  have hname : excerpt.text =
      before ++ opening ++ back.takeWhile isNameChar ++ back.dropWhile isNameChar := by
    rw [List.append_assoc _ _ (back.dropWhile _), List.takeWhile_append_dropWhile, hopening]
  refine (does_takeWhile hbytes hopening).bind ((does_peek hname).bind ?_)
  rw [Term.readVerb]
  generalize back.takeWhile isNameChar = name at hname ⊢
  generalize back.dropWhile isNameChar = rest at hname ⊢
  cases rest with
  | nil =>
    have hsplit : excerpt.text = before ++ (opening ++ name ++ []) := by simpa using hname
    exact does_position.bind (does_report _ hsplit (by simp))
  | cons c rest =>
    have hsplit : excerpt.text = before ++ (opening ++ name ++ [c] ++ rest) := by simpa using hname
    by_cases hclosing : c = ')'
    · subst hclosing
      have hfront : before ++ opening ++ name ++ [')'] = before ++ (opening ++ name ++ [')']) := by
        simp
      refine (does_advance hbytes hname).bind ?_
      rw [hfront]
      dsimp only
      split
      · exact does_position.bind (does_report _ hsplit (by simp))
      · exact does_pure _
    · by_cases hopen : c = '('
      · subst hopen
        have hsize : '('.utf8Size = 1 := by decide
        refine does_position.bind ((does_addByte hbytes hname hsize).bind ?_)
        exact does_report _ hsplit (by simp [hsize, Nat.add_assoc])
      · have hfault : excerpt.text = before ++ (opening ++ name ++ c :: rest) := by
          simpa using hname
        -- The character has no case of its own, neither in the scan nor in the reading.
        rw [List.head?_cons]
        split
        next he => exact (hclosing (Option.some.inj he)).elim
        next he => exact (hopen (Option.some.inj he)).elim
        split
        next he => exact (hclosing (List.cons.inj he).1).elim
        next he => exact (hopen (List.cons.inj he).1).elim
        exact does_position.bind (does_report _ hfault (by simp))

section Literal

variable {literal after : List Char} (h : excerpt.text = before ++ (opening ++ literal ++ after))
include h

theorem does_closeLiteral_closed {rest : List Char} (hafter : after = ')' :: rest) :
    Does excerpt (before ++ opening ++ literal)
      (closeLiteral (Text.byteLength before) (Text.byteLength (before ++ opening)))
      (.ok (.directObject (String.ofList literal), before ++ (opening ++ literal ++ [')']))) := by
  have hliteral : excerpt.text = before ++ opening ++ (literal ++ after) := by simpa using h
  have hclosing : excerpt.text = before ++ opening ++ literal ++ ')' :: rest := by
    simpa [hafter] using h
  have hfront : before ++ opening ++ literal ++ [')'] =
      before ++ (opening ++ literal ++ [')']) := by
    simp
  refine does_position.bind ((does_cut hliteral (Text.byteLength_append _ _)).bind ?_)
  refine (does_peek hclosing).bind ((does_advance hbytes hclosing).bind ?_)
  rw [hfront]
  exact does_pure _

theorem does_closeLiteral_unclosed (hafter : after.head? ≠ some ')') :
    Does excerpt (before ++ opening ++ literal)
      (closeLiteral (Text.byteLength before) (Text.byteLength (before ++ opening)))
      (.ofError (excerpt.errorAfter before .noClosingAfterLiteral
        (opening ++ literal ++ Term.chunk after))) := by
  have hliteral : excerpt.text = before ++ opening ++ (literal ++ after) := by simpa using h
  have hrest : excerpt.text = before ++ opening ++ literal ++ after := by simpa using h
  have hfault : excerpt.text = before ++ (opening ++ literal ++ Term.chunk after ++
      after.dropWhile fun c => !isBlank c) := by
    rw [List.append_assoc _ (Term.chunk after), Term.chunk, List.takeWhile_append_dropWhile, h]
  refine does_position.bind ((does_cut hliteral (Text.byteLength_append _ _)).bind ?_)
  refine (does_peek hrest).bind ?_
  rw [if_pos hafter]
  refine does_position.bind ((does_chunkEnd hbytes hrest).bind (does_position.bind ?_))
  rw [Nat.max_eq_left (Nat.le_add_right _ _)]
  exact does_report _ hfault (by simp [Nat.add_assoc])

end Literal

theorem does_quotedLiteral (h : excerpt.text = before ++ (opening ++ back)) :
    Does excerpt (before ++ opening) (quotedLiteral (Text.byteLength before))
      (termOutcome excerpt before (Term.readDirectObject opening back)) := by
  have hopening : excerpt.text = before ++ opening ++ back := by rw [List.append_assoc, h]
  refine (does_peek hopening).bind ?_
  by_cases hquote : back.head? = some '"'
  · obtain ⟨body, rfl⟩ := List.head?_eq_some_iff.mp hquote
    have hbody : excerpt.text = before ++ opening ++ ['"'] ++ body := by simpa using hopening
    rw [if_neg (not_not_intro hquote), Term.readDirectObject]
    refine does_position.bind ((does_advance hbytes hopening).bind ((does_rest hbody).bind ?_))
    have hstop := List.head?_dropWhile_not (· != '"') body
    cases hrest : body.dropWhile (· != '"') with
    | nil =>
      have hfault : excerpt.text = before ++ (opening ++ '"' :: body ++ []) := by simpa using h
      rw [Text.find?_eq_none hrest]
      exact does_textEnd.bind (does_report _ hfault (by simp [h]))
    | cons quote after =>
      have hquote : quote = '"' := by
        rw [hrest] at hstop
        simpa using hstop
      subst hquote
      have hfound : Text.find? (· == '"') body =
          some (Text.byteLength (body.takeWhile (· != '"'))) := Text.find?_eq_some hrest
      have hcontent := eq_run_append hrest
      rw [hfound]
      generalize body.takeWhile (· != '"') = content at hcontent ⊢
      subst hcontent
      have hsplit : excerpt.text = before ++ (opening ++ ('"' :: content ++ ['"']) ++ after) := by
        simpa using h
      have hfront : before ++ opening ++ ['"'] ++ (content ++ ['"']) =
          before ++ opening ++ ('"' :: content ++ ['"']) := by simp
      refine (does_moveBehind hbytes hbody (by decide)).bind ?_
      rw [hfront]
      by_cases hclosing : after.head? = some ')'
      · obtain ⟨rest, rfl⟩ := List.head?_eq_some_iff.mp hclosing
        exact does_closeLiteral_closed hbytes hsplit rfl
      · dsimp only
        split
        · exact (hclosing rfl).elim
        · exact does_closeLiteral_unclosed hbytes hsplit hclosing
  · rw [if_pos hquote, Term.readDirectObject_of_no_quote hquote]
    exact does_report_chunk hbytes _ h

section Marker

variable {marker : List Char} (h : excerpt.text = front ++ back)
  (hmarker : back.takeWhile isMarkerChar = marker)
include h hmarker

theorem does_marker {role : Role} (hne : marker ≠ [])
    (hrole : Role.ofMarker? (String.ofList marker) = some role) :
    Does excerpt front Scan.marker (.ok (role, front ++ marker)) := by
  subst hmarker
  refine does_position.bind ((does_takeWhile hbytes h).bind ?_)
  rw [if_neg (by simpa using hne), hrole]
  exact does_pure role

theorem does_marker_unknown (hne : marker ≠ [])
    (hrole : Role.ofMarker? (String.ofList marker) = none) :
    Does excerpt front Scan.marker
      (.ofError (excerpt.errorAfter front (.unknownMarker (String.ofList marker)) marker)) := by
  subst hmarker
  have hsplit : excerpt.text =
      front ++ (back.takeWhile isMarkerChar ++ back.dropWhile isMarkerChar) := by
    rw [List.takeWhile_append_dropWhile, h]
  refine does_position.bind ((does_takeWhile hbytes h).bind ?_)
  rw [if_neg (by simpa using hne), hrole]
  exact does_position.bind (does_report _ hsplit (Text.byteLength_append _ _))

theorem does_marker_none (hnil : marker = []) :
    Does excerpt front Scan.marker
      (.ofError (excerpt.errorAfter front .noMarker (unmarked back))) := by
  subst hmarker
  obtain ⟨after, hafter⟩ := unmarked_isPrefix back
  have hsplit : excerpt.text = front ++ (unmarked back ++ after) := by rw [hafter, h]
  have hwidth : Text.byteLength front + (back.head?.map Char.utf8Size).getD 0 < UInt64.size := by
    have hle := Nat.le_max_right (Text.byteLength (Term.chunk back))
      ((back.head?.map Char.utf8Size).getD 0)
    rw [← byteLength_unmarked] at hle
    have hlength := congrArg Text.byteLength hsplit
    simp only [Text.byteLength_append] at hlength
    omega
  refine does_position.bind ((does_takeWhile hbytes h).bind ?_)
  rw [hnil, List.append_nil, if_pos List.isEmpty_nil]
  refine (does_chunkEnd hbytes h).bind ((does_peek h).bind ((does_add_safe hwidth).bind ?_))
  rw [Nat.add_max_add_left, ← byteLength_unmarked]
  exact does_report _ hsplit rfl

end Marker

theorem does_term (h : excerpt.text = front ++ back)
    (hhead : ∀ c ∈ back.head?, isBlank c = false) :
    Does excerpt front term (locatedOutcome excerpt front (Term.read back)) := by
  have hback := List.takeWhile_append_dropWhile (p := isMarkerChar) (l := back)
  generalize hmarker : back.takeWhile isMarkerChar = marker at hback
  generalize hrest : back.dropWhile isMarkerChar = rest at hback
  by_cases hnil : marker = []
  · have hread : Term.read back = .error ⟨.noMarker, unmarked back⟩ := by
      simp [Term.read, hmarker, hnil, unmarked_of_not_isBlank hhead]
    rw [hread]
    exact does_position.bind (does_marker_none hbytes h hmarker hnil).bind_ofError
  cases hrole : Role.ofMarker? (String.ofList marker) with
  | none =>
    have hread : Term.read back = .error ⟨.unknownMarker (String.ofList marker), marker⟩ := by
      simp [Term.read, hmarker, hnil, hrole]
    rw [hread]
    exact does_position.bind (does_marker_unknown hbytes h hmarker hnil hrole).bind_ofError
  | some role =>
    have hmarked : excerpt.text = front ++ marker ++ rest := by
      rw [List.append_assoc, hback, h]
    refine does_position.bind ((does_marker hbytes h hmarker hnil hrole).bind ?_)
    refine (does_peek hmarked).bind ?_
    by_cases hopen : rest.head? = some '('
    · obtain ⟨body, rfl⟩ := List.head?_eq_some_iff.mp hopen
      rw [if_neg (not_not_intro hopen)]
      have hopening : excerpt.text = front ++ (marker ++ ['('] ++ body) := by simpa using hmarked
      refine (does_advance hbytes hmarked).bind ?_
      rw [List.append_assoc]
      cases role with
      | verb =>
        have hread : Term.read back = Term.readVerb (marker ++ ['(']) body :=
          Term.read_of_opening hmarker hnil hrole hrest
        have hscan := does_verbName hbytes hopening
        rw [← hread] at hscan
        exact hscan.located
      | directObject =>
        have hread : Term.read back = Term.readDirectObject (marker ++ ['(']) body :=
          Term.read_of_opening hmarker hnil hrole hrest
        have hscan := does_quotedLiteral hbytes hopening
        rw [← hread] at hscan
        exact hscan.located
    · have hcut : excerpt.text = front ++ (marker ++ rest) := by rw [hback, h]
      rw [if_pos hopen, Term.read_of_no_opening hmarker hnil hrole (hrest.symm ▸ hopen)]
      refine does_position.bind ((does_cut hcut (Text.byteLength_append _ _)).bind ?_)
      exact does_report_chunk hbytes _ h

/-- Where a term is read, a turn passes it and the blanks after it, and ends as is found there. -/
theorem does_turn {reading : Term.Reading} (h : excerpt.text = front ++ back)
    (hhead : ∀ c ∈ back.head?, isBlank c = false) (hread : Term.read back = .ok reading)
    (outcome : Outcome (Located Term × Bool)) :
    let span := Span.ofText (excerpt.offset + Text.byteLength front) reading.spelling
    let gap := reading.rest.takeWhile isBlank
    Does excerpt (front ++ reading.spelling ++ gap)
      (turnEnd ⟨reading.term, span⟩ (!gap.isEmpty)) outcome →
    Does excerpt front turn (outcome.given (span.stop < UInt64.size)) := by
  intro span gap hend
  have hspelled : excerpt.text = front ++ reading.spelling ++ reading.rest := by
    rw [List.append_assoc, ← (Term.read_ok hread).1, h]
  have hterm := does_term hbytes h hhead
  rw [hread] at hterm
  exact hterm.bind_given ((does_skipBlanks hbytes hspelled).bind hend)

/-- Each turn goes along with a step of the reading, and moves on if there must be another one. -/
theorem turnFollows (h : excerpt.text = front ++ back)
    (hhead : ∀ c ∈ back.head?, isBlank c = false) :
    TurnFollows excerpt front
      (Term.readOne excerpt.source (excerpt.offset + Text.byteLength front) back) := by
  rw [Term.readOne]
  cases hread : Term.read back with
  | error flaw =>
    have hterm := does_term hbytes h hhead
    rw [hread] at hterm
    exact hterm.bind_ofError
  | ok reading =>
    have hturn := does_turn hbytes h hhead hread
    obtain ⟨hback, hspelling⟩ := Term.read_ok hread
    have hrest := List.takeWhile_append_dropWhile (p := isBlank) (l := reading.rest)
    have hstop := List.head?_dropWhile_not isBlank reading.rest
    dsimp only at hturn ⊢
    generalize hplace : Span.ofText (excerpt.offset + Text.byteLength front) reading.spelling =
      place at hturn ⊢
    generalize reading.rest.takeWhile isBlank = gap at hrest hturn ⊢
    generalize reading.rest.dropWhile isBlank = more at hrest hstop ⊢
    have hpassed : excerpt.text = front ++ reading.spelling ++ gap ++ more := by
      rw [List.append_assoc _ gap, hrest, List.append_assoc, ← hback, h]
    cases more with
    | nil =>
      rw [List.append_nil] at hpassed
      rw [← hpassed] at hturn
      exact hturn _ (does_turnEnd_finished _ _)
    | cons c rest =>
      have hposition : place.stop + Text.byteLength gap =
          excerpt.offset + Text.byteLength (front ++ reading.spelling ++ gap) := by
        simp [← hplace, Span.ofText, Nat.add_assoc]
      have hle : place.stop ≤ excerpt.offset +
          Text.byteLength (front ++ reading.spelling ++ gap) := by
        rw [← hposition]
        exact Nat.le_add_right _ _
      have hfault {error : SyntaxError} (hstart : place.stop ≤ error.start)
          (hend : Does excerpt (front ++ reading.spelling ++ gap)
            (turnEnd ⟨reading.term, place⟩ (!gap.isEmpty)) (.ofError error)) :
          Does excerpt front turn (.ofError error) := by
        have hturn := hturn _ hend
        rw [Outcome.given_ofError hstart] at hturn
        exact hturn
      dsimp only
      rw [hposition]
      by_cases hclosing : c = ')'
      · subst hclosing
        rw [if_pos rfl]
        exact hfault hle (does_turnEnd_closing hbytes _ _ hpassed)
      rw [if_neg hclosing]
      by_cases hgap : gap = []
      · subst hgap
        exact hfault hle (does_turnEnd_joined hbytes _ hpassed hclosing)
      · have hseparated : (!gap.isEmpty) = true := by simpa using hgap
        rw [hseparated] at hturn
        rw [if_neg (by simpa using hgap)]
        refine ⟨front ++ reading.spelling ++ gap, hturn _ (does_turnEnd_next _ hpassed hclosing),
          ?_, hle, rfl, hpassed, ?_⟩
        · rw [List.append_assoc]
          exact Text.byteLength_lt_append_iff.mpr (by simp [hspelling])
        · intro d hd
          cases hd
          exact hstop

/-- The scan goes along with the reading, turn by turn. -/
theorem does_turns {position : Nat} {terms : List (Located Term)} (h : excerpt.text = front ++ back)
    (hhead : ∀ c ∈ back.head?, isBlank c = false)
    (hposition : excerpt.offset + Text.byteLength front = position) :
    Does excerpt front (repeatM gather terms)
      (turnsOutcome excerpt terms (Term.readAll excerpt.source position back)) := by
  fun_induction Term.readAll excerpt.source position back generalizing front terms with
  | case1 position back error hone =>
    have hturn := turnFollows hbytes h hhead
    rw [hposition, hone] at hturn
    exact Does.loop hturn.bind_ofError.bind_ofError
  | case2 position back term hone =>
    have hturn := turnFollows hbytes h hhead
    rw [hposition, hone] at hturn
    have hgather : Does excerpt front (gather terms)
        (.given _ (.ok (.inr (terms ++ [term]), excerpt.text))) :=
      hturn.bind_given (does_pure _)
    rw [turnsOutcome, Outcome.given_congr List.forall_mem_singleton]
    exact Does.loop (hgather.bind_given (does_pure _))
  | case3 position back term next rest hone ih =>
    have hturn := turnFollows hbytes h hhead
    rw [hposition, hone] at hturn
    obtain ⟨front', hturn, _, hle, hnext, htext, hhead⟩ := hturn
    have hgather : Does excerpt front (gather terms)
        (.given _ (.ok (.inl (terms ++ [term]), front'))) :=
      hturn.bind_given (does_pure _)
    have hloop := Does.loop (hgather.bind_given (ih htext hhead hnext.symm))
    cases hall : Term.readAll excerpt.source next rest with
    | error error =>
      obtain ⟨_, _, _, _, hstart⟩ := Term.readAll_error_start hall
      rw [hall, turnsOutcome, Outcome.given_ofError (by omega)] at hloop
      exact hloop
    | ok more =>
      rw [hall, turnsOutcome, Outcome.given_given, List.append_assoc] at hloop
      rw [Except.map, turnsOutcome, Outcome.given_congr List.forall_mem_cons]
      exact hloop

theorem does_sentence : Does excerpt [] sentence (turnsOutcome excerpt [] excerpt.readTerms) := by
  have hsplit := List.takeWhile_append_dropWhile (p := isBlank) (l := excerpt.text)
  have hstop := List.head?_dropWhile_not isBlank excerpt.text
  have hskip : Does excerpt [] skipBlanks _ := does_skipBlanks hbytes (List.nil_append _).symm
  have hmove : Does excerpt [] _ _ := does_moveTo (List.nil_append excerpt.text).symm
  rw [Text.byteLength_nil] at hmove
  rw [Excerpt.readTerms]
  generalize excerpt.text.takeWhile isBlank = lead at hsplit hskip ⊢
  generalize excerpt.text.dropWhile isBlank = rest at hsplit hstop ⊢
  refine hmove.bind (hskip.bind ?_)
  cases rest with
  | nil =>
    have hend : excerpt.text = lead ++ ([] ++ []) := hsplit.symm
    have hlead : excerpt.text = lead := by rw [hend, List.append_nil, List.append_nil]
    refine does_atEnd.bind ?_
    rw [List.nil_append, hlead, if_pos (decide_eq_true (Nat.le_refl _))]
    exact does_position.bind (does_position.bind (does_report _ hend rfl))
  | cons c rest =>
    have hhead : ∀ d ∈ (c :: rest).head?, isBlank d = false := by
      intro d hd
      cases hd
      exact hstop
    exact (does_atEnd_of_cons hsplit.symm).bind (does_turns hbytes hsplit.symm hhead rfl)

/-- Where a blank comes next there is no term, so that no turn succeeds. -/
theorem does_turn_blank {c : Char} (h : excerpt.text = front ++ c :: back) (hc : isBlank c = true) :
    Does excerpt front turn
      (.ofError (excerpt.errorAfter front .noMarker (unmarked (c :: back)))) := by
  have hmarker : (c :: back).takeWhile isMarkerChar = [] := by
    simp [isMarkerChar, isNameChar, hc]
  have hterm : Does excerpt front term (.ofError _) :=
    does_position.bind (does_marker_none hbytes h hmarker rfl).bind_ofError
  exact hterm.bind_ofError

/-- A turn of the scan moves on whenever there must be another turn. -/
theorem position_lt_of_turn {position : Nat} {events : List Scanner.Event} {term : Located Term}
    {scanner : Scanner} (hboundary : Text.IsBoundary excerpt.text position)
    (hrun : Scanner.run ⟨excerpt, position, events⟩ turn = some (.ok (term, true), scanner)) :
    position < scanner.position := by
  obtain ⟨front, back, htext, rfl⟩ := hboundary
  by_cases hhead : ∀ c ∈ back.head?, isBlank c = false
  · have hturn := turnFollows hbytes htext hhead
    cases hone : Term.readOne excerpt.source (excerpt.offset + Text.byteLength front) back with
    | error error =>
      rw [hone] at hturn
      obtain ⟨_, he, _⟩ := hturn.outcome_eq hrun
      exact (Outcome.ofError_ne_ok he).elim
    | ok progress =>
      rw [hone] at hturn
      cases progress with
      | finished found =>
        obtain ⟨_, he, _⟩ := hturn.outcome_eq hrun
        cases (Outcome.given_eq_ok_iff.mp he).2
      | next found next rest =>
        obtain ⟨front', hturn, hlt, _⟩ := hturn
        obtain ⟨_, he, hposition⟩ := hturn.outcome_eq hrun
        cases (Outcome.given_eq_ok_iff.mp he).2
        rw [hposition]
        exact hlt
  · cases back with
    | nil => exact (hhead fun _ hc => nomatch hc).elim
    | cons c back =>
      have hblank : isBlank c = true := by simpa using hhead
      obtain ⟨_, he, _⟩ := (does_turn_blank hbytes htext hblank).outcome_eq hrun
      exact (Outcome.ofError_ne_ok he).elim

end Bounded

end Scan

namespace Excerpt

variable {excerpt : Excerpt}

theorem ends_scan (hbytes : Text.byteLength excerpt.text < UInt64.size) :
    Scan.Ends excerpt [] (Scan.turnsOutcome excerpt [] excerpt.readTerms) excerpt.scan :=
  Scan.does_sentence hbytes []

/-- Where the excerpt ends at a position that fits, whatever is read in it does so too. -/
theorem turnsOutcome_of_fits
    (hfits : excerpt.offset + Text.byteLength excerpt.text < UInt64.size) :
    Scan.turnsOutcome excerpt [] excerpt.readTerms =
      match excerpt.readTerms with
      | .ok terms => .ok (terms, excerpt.text)
      | .error error => .error error := by
  cases hread : excerpt.readTerms with
  | ok terms =>
    apply Scan.Outcome.given_of
    intro term hterm
    obtain ⟨_, _, hholds⟩ := holds_of_mem_terms hread hterm
    exact Nat.lt_of_le_of_lt hholds.within.stop_le hfits
  | error error =>
    obtain ⟨hlies, _⟩ := readTerms_error hread
    exact Scan.Outcome.given_of (Nat.lt_of_le_of_lt hlies.holds.within.stop_le hfits)

/-- If all positions of an excerpt fit into 64 bits, its scan comes to an end with what is read
there. It never leaves the boundaries of the characters, whether it stands or cuts there, and no sum
overflows. Wherever it stands, a turn moves on if there must be another one. -/
theorem scan_safe (excerpt : Excerpt)
    (hfits : excerpt.offset + Text.byteLength excerpt.text < UInt64.size) :
    (∃ scanner, excerpt.scan =
        some (excerpt.readTerms.mapError fun error => .fault error.located, scanner) ∧
      ∀ event ∈ scanner.events, event.IsSafe excerpt.text) ∧
    ∀ position, Text.IsBoundary excerpt.text position → ∀ events term scanner,
      Scanner.run ⟨excerpt, position, events⟩ Scan.turn = some (.ok (term, true), scanner) →
      position < scanner.position := by
  have hbytes : Text.byteLength excerpt.text < UInt64.size := by omega
  constructor
  · have hends := ends_scan hbytes
    rw [turnsOutcome_of_fits hfits] at hends
    generalize excerpt.scan = result at hends ⊢
    cases hread : excerpt.readTerms with
    | ok terms =>
      rw [hread] at hends
      cases hends with
      | ok hsafe => exact ⟨_, rfl, hsafe⟩
    | error error =>
      rw [hread] at hends
      cases hends with
      | error hsafe => exact ⟨_, rfl, hsafe⟩
  · intro position hboundary events term scanner hrun
    exact Scan.position_lt_of_turn hbytes hboundary hrun

theorem scan_safe_at_limit :
    let excerpt : Excerpt := ⟨"v(é)\u3000é".toList, 3, UInt64.size - 11⟩
    let error : SyntaxError := ⟨.unknownMarker "é", "é", UInt64.size - 3, 3⟩
    excerpt.offset + Text.byteLength excerpt.text < UInt64.size ∧
    (∃ scanner, excerpt.scan = some (.error (.fault error.located), scanner) ∧
      ∀ event ∈ scanner.events, event.IsSafe excerpt.text) ∧
    ∃ term scanner, Scanner.run { excerpt } Scan.turn = some (.ok (term, true), scanner) ∧
      0 < scanner.position := by
  intro excerpt error
  have hfits : excerpt.offset + Text.byteLength excerpt.text < UInt64.size := by decide +kernel
  have hread : excerpt.readTerms = .error error := by decide +kernel
  obtain ⟨hscan, hturn⟩ := scan_safe excerpt hfits
  rw [hread] at hscan
  have hone : Term.readOne excerpt.source (excerpt.offset + Text.byteLength []) excerpt.text =
      .ok (.next ⟨.verb "é", ⟨UInt64.size - 11, UInt64.size - 6⟩⟩ (UInt64.size - 3) ['é']) := rfl
  have hhead : ∀ c ∈ excerpt.text.head?, isBlank c = false := by
    intro c hc
    cases hc
    decide
  have hbytes : Text.byteLength excerpt.text < UInt64.size := by decide +kernel
  have hfollows := Scan.turnFollows hbytes (List.nil_append excerpt.text).symm hhead
  rw [hone] at hfollows
  obtain ⟨front', hdoes, _⟩ := hfollows
  rw [Scan.Outcome.given_of (by decide +kernel)] at hdoes
  have hends := hdoes []
  generalize hrun : Scanner.run _ Scan.turn = result at hends
  cases hends with
  | ok _ => exact ⟨hfits, hscan, _, _, hrun, hturn 0 ⟨[], excerpt.text, rfl, rfl⟩ _ _ _ hrun⟩

end Excerpt

end FreeOrder
